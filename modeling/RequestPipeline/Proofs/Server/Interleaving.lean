/-!
# Parties that take turns

Tasks that share a state move one at a time, in any order, and each move is one access to what they share.
`Steps step x acts y` says that the moves `acts` lead from `x` to `y`; every interleaving of the tasks is such a
list.  What each of the tasks has reached stands in a list, of which a move changes one entry.
-/

namespace RequestPipeline

section
variable {σ α : Type} (step : σ → α → σ → Prop)

/-- the moves `acts`, the last of them at the end, lead from `x` to a state -/
inductive Steps (x : σ) : List α → σ → Prop
  | none : Steps x [] x
  | snoc {acts : List α} {y z : σ} {a : α} : Steps x acts y → step y a z → Steps x (acts ++ [a]) z

theorem Steps.append {x y z : σ} {acts more : List α} (first : Steps step x acts y)
    (next : Steps step y more z) : Steps step x (acts ++ more) z := by
  induction next with
  | none => rwa [List.append_nil]
  | snoc _ move ih =>
    rw [← List.append_assoc]
    exact ih.snoc move

theorem Steps.cons {x y z : σ} {a : α} {acts : List α} (move : step x a y) (next : Steps step y acts z) :
    Steps step x (a :: acts) z :=
  append step (none.snoc move) next

end

section
variable {α : Type} {l : List α} {i : Nat} {a : α}

/-- one entry is changed: those that were counted, those that are counted -/
theorem countP_set_add (p : α → Bool) (h : l[i]? = some a) (b : α) :
    (l.set i b).countP p + (p a).toNat = l.countP p + (p b).toNat := by
  obtain ⟨hi, rfl⟩ := List.getElem?_eq_some_iff.1 h
  have counted : (p l[i]).toNat ≤ l.countP p := by
    cases hp : p l[i] with
    | false => exact Nat.zero_le _
    | true => exact List.countP_pos_iff.2 ⟨l[i], List.getElem_mem hi, hp⟩
  rw [List.countP_set hi]
  cases hp : p l[i] <;> cases hb : p b <;> rw [hp] at counted <;>
    simp only [Bool.toNat_true, Bool.toNat_false, Bool.false_eq_true, if_true, if_false] at counted ⊢ <;> omega

end

end RequestPipeline
