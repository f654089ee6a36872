import RequestPipeline.Text.Blank

/-!
# Cutting a text at a separator

`Text.split` cuts a text at every occurrence of one character; `n` separators give `n + 1` pieces,
so the empty text gives one empty piece.
-/

namespace RequestPipeline.Text

/-- the pieces between the occurrences of `sep` -/
def split (sep : Char) : List Char → List (List Char)
  | [] => [[]]
  | c :: cs =>
    match split sep cs with
    | [] => [[c]]
    | piece :: pieces => if c = sep then [] :: piece :: pieces else (c :: piece) :: pieces

def splitText (sep : Char) (s : String) : List String :=
  (split sep s.toList).map String.ofList

/-- the trimmed parts between the commas of a text, without the empty ones -/
def commaParts (s : String) : List String :=
  (((split ',' s.toList).map trimChars).filter fun p => !p.isEmpty).map String.ofList

/-- cuts at the first `sep`, if there is one -/
def cutFirst (sep : Char) : List Char → Option (List Char × List Char)
  | [] => none
  | c :: cs =>
    if c = sep then some ([], cs)
    else (cutFirst sep cs).map fun (a, b) => (c :: a, b)

/-- cuts at the last `sep`, if there is one -/
def cutLast (sep : Char) (cs : List Char) : Option (List Char × List Char) :=
  (cutFirst sep cs.reverse).map fun (a, b) => (b.reverse, a.reverse)

/-- the rest after `front`, if the text starts with it -/
def dropFront? : (front : List Char) → List Char → Option (List Char)
  | [], cs => some cs
  | _ :: _, [] => none
  | f :: fs, c :: cs => if f = c then dropFront? fs cs else none

/-- cuts at every occurrence of the two-character separator `sep sep`, from the left -/
def splitPair (sep : Char) : List Char → List (List Char)
  | [] => [[]]
  | [c] => [[c]]
  | c :: d :: cs =>
    if c = sep ∧ d = sep then [] :: splitPair sep cs
    else
      match splitPair sep (d :: cs) with
      | [] => [[c]]
      | piece :: pieces => (c :: piece) :: pieces

theorem split_ne_nil (sep : Char) (cs : List Char) : split sep cs ≠ [] := by
  cases cs with
  | nil => simp [split]
  | cons c cs =>
    simp only [split]
    split
    · simp
    · split <;> simp

theorem split_of_not_mem {sep : Char} {p : List Char} (h : sep ∉ p) : split sep p = [p] := by
  induction p with
  | nil => rfl
  | cons c p ih =>
    have hc : c ≠ sep := fun e => h (e ▸ List.mem_cons_self)
    rw [split, ih fun hp => h (List.mem_cons_of_mem _ hp)]
    exact if_neg hc

theorem split_append_cons {sep : Char} {p : List Char} (h : sep ∉ p) (cs : List Char) :
    split sep (p ++ sep :: cs) = p :: split sep cs := by
  induction p with
  | nil =>
    rw [List.nil_append, split]
    split
    · rename_i e
      exact absurd e (split_ne_nil sep cs)
    · rename_i e
      rw [if_pos rfl, e]
  | cons c p ih =>
    have hc : c ≠ sep := fun e => h (e ▸ List.mem_cons_self)
    rw [List.cons_append, split, ih fun hp => h (List.mem_cons_of_mem _ hp)]
    exact if_neg hc

end RequestPipeline.Text
