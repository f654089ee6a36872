import RequestPipeline.Json.Record
import RequestPipeline.Proofs.Json.Members

/-!
# Reading objects as records

An object whose members are fields of a record, each with a value that is read as it is, is read as it is:
`fromValue_record_of_same`.  The record builds it anew member by member, which gives it back because its keys are
in order (`foldl_insert_of_sorted`).
-/

namespace RequestPipeline.Json

namespace Members

theorem insert_of_forall_lt {acc : Members} {key : String} (h : ∀ m ∈ acc, m.1 < key) (value : Value) :
    insert key value acc = acc ++ [(key, value)] := by
  induction acc with
  | nil => rfl
  | cons m acc ih =>
    obtain ⟨k, v⟩ := m
    have hk : k < key := h (k, v) List.mem_cons_self
    have hne : key ≠ k := fun e => String.lt_irrefl k (e ▸ hk)
    unfold insert
    rw [if_neg hne, if_neg (String.lt_asymm hk), ih fun m hm => h m (List.mem_cons_of_mem _ hm)]
    rfl

/-- members in order, put behind others that are before them, stay as they are -/
theorem foldl_insert_of_sorted {acc ms : Members} (h : (acc ++ ms).Sorted) :
    ms.foldl (fun acc m => insert m.1 m.2 acc) acc = acc ++ ms := by
  induction ms generalizing acc with
  | nil => exact (List.append_nil acc).symm
  | cons m ms ih =>
    have hm : ∀ n ∈ acc, n.1 < m.1 := fun n hn => (List.pairwise_append.mp h).2.2 n hn m List.mem_cons_self
    have hs : acc ++ m :: ms = acc ++ [(m.1, m.2)] ++ ms := by rw [List.append_assoc]; rfl
    rw [List.foldl_cons, insert_of_forall_lt hm, hs]
    exact ih (hs ▸ h)

end Members

namespace Reader

/-- a number in the bounds of its reader is read as it is -/
theorem fromValue_integer (expected : String) {lo hi : Int} {n : Nat} (h : lo ≤ n ∧ (n : Int) ≤ hi) :
    (integer expected lo hi).fromValue (.ofNat n) = .ok (.ofNat n) := if_pos h

section
variable {fields : List Field} (closed : Bool) (optional : ∀ f ∈ fields, f.required = false)
include optional

theorem membersOfValues_of_same {ms : Members}
    (same : ∀ m ∈ ms, ∃ f, field? fields m.1 = some f ∧ f.reader.fromValue m.2 = .ok m.2) (acc : Members) :
    membersOfValues fields closed acc ms = .ok (.object (ms.foldl (fun acc m => Members.insert m.1 m.2 acc) acc)) := by
  induction ms generalizing acc with
  | nil =>
    have hm : firstMissing fields acc = none := by
      unfold firstMissing
      rw [Option.map_eq_none_iff, List.find?_eq_none]
      intro f hf
      rw [optional f hf, Bool.false_and]
      exact Bool.false_ne_true
    unfold membersOfValues complete
    rw [hm]
    rfl
  | cons m ms ih =>
    obtain ⟨key, v⟩ := m
    obtain ⟨f, hf, hv⟩ := same (key, v) List.mem_cons_self
    unfold membersOfValues
    rw [hf]
    show (f.reader.fromValue v).bind _ = _
    rw [hv]
    exact ih (fun m hm => same m (List.mem_cons_of_mem _ hm)) (Members.insert key v acc)

/-- **A record without required fields reads an object as it is, if it reads its values so.** -/
theorem fromValue_record_of_same (name : String) {ms : Members} (sorted : ms.Sorted)
    (same : ∀ m ∈ ms, ∃ f, field? fields m.1 = some f ∧ f.reader.fromValue m.2 = .ok m.2) :
    (record name closed fields).fromValue (.object ms) = .ok (.object ms) := by
  have hms : ms.foldl (fun acc m => Members.insert m.1 m.2 acc) [] = [] ++ ms :=
    Members.foldl_insert_of_sorted sorted
  show membersOfValues fields closed [] ms = _
  rw [membersOfValues_of_same closed optional same [], hms]
  rfl

end

end Reader
end RequestPipeline.Json
