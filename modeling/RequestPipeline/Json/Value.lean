import RequestPipeline.Number.Binary64

/-!
# JSON values

A value is null, a truth value, a number (a whole number or a floating-point one), a text, an array or
an object.  The members of an object are kept as a list of pairs; `Members.insert` keeps the list in
the order of its keys, each key once, and that is the form of every object that this library builds
or reads.  Keys are ordered by code points, which is the order of their bytes.
-/

namespace RequestPipeline.Json

/-- a number: whole numbers of 64 bits and floating-point numbers are told apart -/
inductive Number where
  | int (value : Int)
  | float (value : Finite64)
  deriving DecidableEq, Repr

namespace Number

def toFloat? : Number → Option Finite64
  | .int i => Finite64.ofInt i
  | .float f => some f

/-- the value as a signed integer of 64 bits, if it is stored as one -/
def int64? : Number → Option Int
  | .int i => if -9223372036854775808 ≤ i ∧ i ≤ 9223372036854775807 then some i else none
  | .float _ => none

end Number

inductive Value where
  | null
  | bool (value : Bool)
  | number (value : Number)
  | string (value : String)
  | array (items : List Value)
  | object (members : List (String × Value))
  deriving Repr, Inhabited, BEq

abbrev Members := List (String × Value)

namespace Value

def ofInt (i : Int) : Value := .number (.int i)

def ofNat (n : Nat) : Value := .number (.int n)

def ofOption : Option String → Value
  | some s => .string s
  | none => .null

def ofTexts (ss : List String) : Value := .array (ss.map .string)

def isNull : Value → Bool
  | .null => true
  | _ => false

end Value

namespace Members

def get? (key : String) : Members → Option Value
  | [] => none
  | (k, v) :: rest => if k = key then some v else get? key rest

def contains (key : String) (members : Members) : Bool := (get? key members).isSome

def keys (members : Members) : List String := members.map Prod.fst

/-- puts a value under a key, in place of the one that was there -/
def insert (key : String) (value : Value) : Members → Members
  | [] => [(key, value)]
  | (k, v) :: rest =>
    if key = k then (key, value) :: rest
    else if key < k then (key, value) :: (k, v) :: rest
    else (k, v) :: insert key value rest

/-- the object with the given members; of two with one key the later stays -/
def ofList (members : List (String × Value)) : Members :=
  members.foldl (fun acc (k, v) => insert k v acc) []

/-- whether the keys stand in strictly increasing order -/
def Sorted (members : Members) : Prop := members.Pairwise fun a b => a.1 < b.1

theorem get?_nil (key : String) : get? key [] = none := rfl

theorem get?_insert_self (key : String) (value : Value) (members : Members) :
    get? key (insert key value members) = some value := by
  induction members with
  | nil => simp [insert, get?]
  | cons kv rest ih =>
    obtain ⟨k, v⟩ := kv
    unfold insert
    split
    · simp [get?]
    · split
      · simp [get?]
      · rename_i h _
        simp [get?, Ne.symm h, ih]

theorem get?_insert_of_ne {key other : String} (h : other ≠ key) (value : Value)
    (members : Members) : get? other (insert key value members) = get? other members := by
  induction members with
  | nil => simp [insert, get?, Ne.symm h]
  | cons kv rest ih =>
    obtain ⟨k, v⟩ := kv
    unfold insert
    split
    · rename_i hk
      subst hk
      simp [get?, Ne.symm h]
    · split
      · simp [get?, Ne.symm h]
      · simp [get?, ih]

end Members

namespace Value

def members? : Value → Option Members
  | .object ms => some ms
  | _ => none

/-- the value of a key, if the value is an object that has it -/
def get? (v : Value) (key : String) : Option Value := v.members?.bind (Members.get? key)

def text? : Value → Option String
  | .string s => some s
  | _ => none

def int? : Value → Option Int
  | .number (.int i) => some i
  | _ => none

def nat? : Value → Option Nat
  | .number (.int (.ofNat n)) => some n
  | _ => none

def bool? : Value → Option Bool
  | .bool b => some b
  | _ => none

def items? : Value → Option (List Value)
  | .array vs => some vs
  | _ => none

end Value

/-- the object with the given members; of two with one key the later stays -/
def object (members : List (String × Value)) : Value := .object (Members.ofList members)

end RequestPipeline.Json
