import RequestPipeline.Json.Print

/-!
# Texts of objects with two members

What a client gets is an object with two members, such as an event and its data.  Its text tells what one of
them is written as when the other is known, or when it is known how long that is written:

* `chars_pair_left_iff`   the text with the second member fixed;
* `chars_pair_iff`        the text with second members of one length.
-/

namespace RequestPipeline.Json

section
variable {k l : String} {v v' w w' : Value}

theorem chars_pair (k l : String) (v w : Value) : (Value.object [(k, v), (l, w)]).chars
    = '{' :: (quote k ++ ':' :: (v.chars ++ ',' :: (quote l ++ ':' :: (w.chars ++ ['}'])))) := rfl

/-- the text of an object with two members, without what is the same for both of two objects -/
theorem chars_pair_eq_iff : (Value.object [(k, v), (l, w)]).chars = (Value.object [(k, v'), (l, w')]).chars ↔
    v.chars ++ ',' :: (quote l ++ ':' :: w.chars) = v'.chars ++ ',' :: (quote l ++ ':' :: w'.chars) := by
  have h : ∀ v w : Value, (Value.object [(k, v), (l, w)]).chars
      = ('{' :: (quote k ++ [':'])) ++ (v.chars ++ ',' :: (quote l ++ ':' :: w.chars)) ++ ['}'] := by
    intro v w
    rw [chars_pair]
    simp only [List.append_assoc, List.cons_append, List.nil_append]
  rw [h v w, h v' w', List.append_left_inj, List.append_right_inj]

theorem chars_pair_left_iff : (Value.object [(k, v), (l, w)]).chars = (Value.object [(k, v'), (l, w)]).chars ↔
    v.chars = v'.chars := by
  rw [chars_pair_eq_iff, List.append_left_inj]

theorem chars_pair_iff (hl : w.chars.length = w'.chars.length) :
    (Value.object [(k, v), (l, w)]).chars = (Value.object [(k, v'), (l, w')]).chars ↔
      v.chars = v'.chars ∧ w.chars = w'.chars := by
  rw [chars_pair_eq_iff]
  constructor
  · intro h
    have ht : (',' :: (quote l ++ ':' :: w.chars)).length = (',' :: (quote l ++ ':' :: w'.chars)).length := by
      rw [List.length_cons, List.length_cons, List.length_append, List.length_append, List.length_cons,
        List.length_cons, hl]
    obtain ⟨hv, hw⟩ := List.append_inj' h ht
    have hw' : ':' :: w.chars = ':' :: w'.chars := List.append_cancel_left (List.cons.inj hw).2
    exact ⟨hv, (List.cons.inj hw').2⟩
  · rintro ⟨hv, hw⟩
    rw [hv, hw]

end

theorem render_eq_iff {v w : Value} : v.render = w.render ↔ v.chars = w.chars := by
  unfold Value.render
  exact String.ofList_inj

end RequestPipeline.Json
