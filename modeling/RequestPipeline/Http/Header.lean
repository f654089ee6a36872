import RequestPipeline.Text.Utf8
import RequestPipeline.Text.Ascii
import RequestPipeline.Text.Blank

/-!
# Header fields

A header map is a list of fields, each a lower-case name with the bytes of its value; a name may occur
several times, and its values keep their order.  `Headers.insert` replaces all values of a name by one and
leaves every other field as it is.
-/

namespace RequestPipeline

/-- fields of a message, in order -/
abbrev Headers := List (String × Bytes)

/-- whether a character may stand in the name of a field -/
def isNameChar (c : Char) : Bool :=
  c.isAlphanum || "!#$%&'*+-.^_`|~".toList.contains c

def maxNameLength : Nat := 65535

/-- the lower-case name of a field, if the characters make one -/
def headerName? (cs : List Char) : Option String :=
  if cs ≠ [] ∧ cs.length ≤ maxNameLength ∧ cs.all isNameChar then
    some (String.ofList (cs.map Text.lowerChar))
  else none

/-- whether a byte of a value is printable ASCII, a space or a tab -/
def isVisible (b : UInt8) : Bool := (32 ≤ b && b < 127) || b == 9

def headerText? (value : Bytes) : Option String :=
  if value.all isVisible then
    some (String.ofList (value.map fun b => Char.ofNat b.toNat))
  else none

/-- whether a byte may stand in a value: all but controls, and a tab -/
def isValueByte (b : UInt8) : Bool := (32 ≤ b && b != 127) || b == 9

def headerValue? (s : String) : Option Bytes :=
  let bytes := Utf8.ofText s
  if bytes.all isValueByte then some bytes else none

theorem isValueByte_of_isVisible {b : UInt8} (h : isVisible b = true) : isValueByte b = true := by
  simp only [isVisible, isValueByte, Bool.or_eq_true, Bool.and_eq_true, decide_eq_true_eq,
    bne_iff_ne, beq_iff_eq] at h ⊢
  rcases h with ⟨h, hb⟩ | h
  · exact .inl ⟨h, fun e => by subst e; exact absurd hb (by decide)⟩
  · exact .inr h

namespace Headers

/-- the first value of a name -/
def get? (name : String) : Headers → Option Bytes
  | [] => none
  | (n, v) :: rest => if n = name then some v else get? name rest

def getAll (name : String) (hs : Headers) : List Bytes :=
  (hs.filter fun h => h.1 == name).map Prod.snd

/-- the first value of a name, if it is a text -/
def text? (name : String) (hs : Headers) : Option String := (get? name hs).bind headerText?

def erase (name : String) (hs : Headers) : Headers := hs.filter fun h => h.1 != name

/-- replaces all values of a name by one -/
def insert (name : String) (value : Bytes) : Headers → Headers
  | [] => [(name, value)]
  | (n, v) :: rest =>
    if n = name then (name, value) :: erase name rest else (n, v) :: insert name value rest

def append (name : String) (value : Bytes) (hs : Headers) : Headers := hs ++ [(name, value)]

theorem get?_insert_self (name : String) (value : Bytes) (hs : Headers) :
    get? name (insert name value hs) = some value := by
  induction hs with
  | nil => simp [insert, get?]
  | cons h rest ih =>
    obtain ⟨n, v⟩ := h
    unfold insert
    split
    · simp [get?]
    · rename_i hn
      simp [get?, hn, ih]

theorem getAll_insert_self (name : String) (value : Bytes) (hs : Headers) :
    getAll name (insert name value hs) = [value] := by
  induction hs with
  | nil => simp [insert, getAll]
  | cons h rest ih =>
    obtain ⟨n, v⟩ := h
    unfold insert
    split
    · simp [getAll, erase, List.filter_filter]
    · rename_i hn
      simpa [getAll, hn] using ih

theorem getAll_insert_of_ne {name other : String} (h : other ≠ name) (value : Bytes)
    (hs : Headers) : getAll other (insert name value hs) = getAll other hs := by
  induction hs with
  | nil => simp [insert, getAll, Ne.symm h]
  | cons f rest ih =>
    obtain ⟨n, v⟩ := f
    unfold insert
    split
    · rename_i hn
      subst hn
      simp only [getAll, erase, List.filter_cons, List.filter_filter, beq_iff_eq, Ne.symm h,
        if_false]
      congr 1
      apply List.filter_congr
      intro x _
      by_cases hx : x.1 = other <;> simp [hx, h]
    · simp only [getAll] at ih
      by_cases hn : n = other <;> simp [getAll, hn, ih]

end Headers
end RequestPipeline
