import RequestPipeline.Proofs.Validation.Coercion
import RequestPipeline.Proofs.Validation.Exactness

/-!
# Validating what is valid

What a schema makes of an input it admits is an input that it admits as it is (`Admits.again`): its values are
their own coercions, no field has changed from given to missing, and the checks see the object that they have
seen.  `validation_idempotent`: **checking the coerced object once more finds nothing and changes nothing.**
-/

namespace RequestPipeline.Validation

open Json (Value Members)

/-! ## one field -/

section
variable {f : FieldSpec} {raw result : Option Value}

/-- a field accepts what it has made of a value, as it is -/
theorem FieldSpec.Accepts.again (h : f.Accepts raw result) : f.Accepts result result := by
  cases h with
  | missing optional => exact .missing optional
  | null optional => exact .missing optional
  | value given coerced kept => exact .value (coerce_ne_null given coerced) (coerce_idem coerced) kept

/-- a field makes a value only of a value that is given -/
theorem FieldSpec.Accepts.given {w : Value} (h : f.Accepts raw (some w)) : ∃ v, raw = some v ∧ v ≠ .null := by
  cases h with
  | value given coerced kept => exact ⟨_, rfl, given⟩

end

/-! ## the whole object -/

section
variable {s : Schema} {context : Option RequestContext} {input object : Members}

/-- what is given in the admitted object was given in the input -/
theorem Admits.gives (h : Admits s context input object) {key : String} (hg : Gives object key) :
    Gives input key := by
  obtain ⟨w, hw, -⟩ := hg
  have hk : key ∈ object.keys := by
    refine Decidable.byContradiction fun hn => ?_
    rw [Members.get?_eq_none_iff.mpr hn] at hw
    cases hw
  obtain ⟨f, hf, rfl⟩ := h.only key hk
  have ha : f.Accepts (input.get? f.name) (some w) := hw ▸ h.fields f hf
  exact ha.given

/-- **What an input is admitted as is admitted as it is.** -/
theorem Admits.again (h : Admits s context input object) : Admits s context object object where
  fields f hf := (h.fields f hf).again
  only := h.only
  sorted := h.sorted
  declared := h.only
  exclusive first second code general hr hg := by
    obtain ⟨h₁, h₂⟩ := hg
    exact h.exclusive first second code general hr ⟨h.gives h₁, h.gives h₂⟩
  checks := h.checks

theorem isValid_check_iff : (check s input context).isValid = true ↔ (check s input context).failure? = none := by
  unfold Report.isValid Report.failure?
  rw [Option.map_eq_none_iff, Report.selected_eq_none_iff fun _ => ne_nil_of_mem_fieldFailures,
    Bool.and_eq_true, List.isEmpty_iff, List.isEmpty_iff]

end

/-- **Validation is idempotent**: what a schema has made of a valid object is valid, in the same context, and
stays as it is; and so does every coerced value. -/
theorem validation_idempotent :
    (∀ s : Schema, (s.fields.map FieldSpec.name).Nodup → ∀ input context,
      (check s input context).isValid = true →
        (check s (check s input context).value context).isValid = true ∧
          (check s (check s input context).value context).value = (check s input context).value) ∧
      ∀ v k w, coerce v k = some w → coerce w k = some w := by
  refine ⟨fun s distinct input context valid => ?_, fun v k w h => coerce_idem h⟩
  have admitted : Admits s context input (check s input context).value :=
    (admits_iff distinct).mpr ⟨isValid_check_iff.mp valid, rfl⟩
  obtain ⟨hf, hv⟩ := (admits_iff distinct).mp admitted.again
  exact ⟨isValid_check_iff.mpr hf, hv.symm⟩

/-- an order: tags, and seats unless it is paid, which only callers who are known may say -/
def orderSchema : Schema :=
  ⟨"Order", [⟨"tags", .stringList, false, false, [⟨.minLength 2, false, none⟩]⟩, ⟨"paid", .boolean, true, false, []⟩,
      ⟨"seats", .integerList, true, false, [⟨.min 1, false, none⟩]⟩],
    [.exclusive "seats" "paid" .exclusive false, .check "known" fun object context =>
      if context = none ∧ object.contains "paid" then some ⟨"paid", .custom, "who pays?", false⟩ else none]⟩

/-- an order by caller 7, whose tags are a text with blanks and an empty part in it -/
theorem validation_idempotent_order :
    let context : Option RequestContext := some ⟨7, [], ⟨0⟩, .http⟩
    let input : Members := [("paid", .string " 1"), ("seats", .null), ("tags", .string " a ,, b c")]
    let object : Members := [("paid", .bool true), ("tags", .array [.string "a", .string "b c"])]
    (orderSchema.fields.map FieldSpec.name).Nodup ∧ (check orderSchema input context).isValid = true ∧
      coerce (.string " a ,, b c") .stringList = some (.array [.string "a", .string "b c"]) ∧
      (check orderSchema object context).isValid = true ∧ (check orderSchema object context).value = object ∧
      coerce (.array [.string "a", .string "b c"]) .stringList = some (.array [.string "a", .string "b c"]) := by
  intro context input object
  have distinct : (orderSchema.fields.map FieldSpec.name).Nodup := by decide
  have valid : (check orderSchema input context).isValid = true := by decide +kernel
  have checked : (check orderSchema input context).value = object := by cbv
  have coerced : coerce (.string " a ,, b c") .stringList = some (.array [.string "a", .string "b c"]) := rfl
  have again := validation_idempotent.1 orderSchema distinct input context valid
  rw [checked] at again
  exact ⟨distinct, valid, coerced, again.1, again.2, validation_idempotent.2 _ _ _ coerced⟩

end RequestPipeline.Validation
