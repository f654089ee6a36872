import RequestPipeline.Proofs.Http.Query
import RequestPipeline.Proofs.Json.Record
import RequestPipeline.Proofs.Text.Order
import RequestPipeline.Proofs.Validation.Bounds
import RequestPipeline.Proofs.Validation.Exactness
import RequestPipeline.Validation.Pagination

/-!
# What is decided about a page

`Pagination.Decides` says, without the checker, what becomes of the parameters of a page: an offset and a cursor
together are a conflict, whatever else there is; else the first parameter that is wrong is reported, else the
least key that is no parameter; and what remains is a page.

* `validate_of_decides`   the validator decides so, rule by rule;
* `exists_decides`        some rule applies to every object.

`pagination_decided`: **exactly one rule applies to every object and to every query string, and it is what the
validator answers; the binding behind the check never fails.**
-/

namespace RequestPipeline

open Json (Value Members Reader)

namespace Validation

namespace Pagination

/-! ## parameters -/

/-- a parameter of a page: a whole number that may be left out, and that may have a greatest value -/
structure Parameter where
  name : String
  greatest : Option Nat

namespace Parameter

/-- how long a page may be -/
def limit : Parameter := ⟨"limit", some 100⟩

/-- how many items are before it -/
def offset : Parameter := ⟨"offset", none⟩

/-- the item that it comes after -/
def cursor : Parameter := ⟨"cursor", none⟩

/-- what a query says of a parameter: nothing, if it is left out or null, or a number -/
inductive Reads (p : Parameter) (query : Members) : Option Nat → Prop
  | missing : ¬ Gives query p.name → p.Reads query none
  | given {v : Value} {n : Nat} : query.get? p.name = some v → v ≠ .null → integer? v = some (n : Int) →
      (∀ b, p.greatest = some b → n ≤ b) → p.Reads query (some n)

/-- what is wrong with a parameter of a query -/
inductive Wrong (p : Parameter) (query : Members) : String → Prop
  | kind {v : Value} : query.get? p.name = some v → v ≠ .null → integer? v = none →
      p.Wrong query (p.name ++ " must be an integer number")
  | below {v : Value} {i : Int} : query.get? p.name = some v → v ≠ .null → integer? v = some i → i < 0 →
      p.Wrong query (p.name ++ " must not be less than 0")
  | above {v : Value} {i : Int} {b : Nat} : query.get? p.name = some v → v ≠ .null → integer? v = some i →
      p.greatest = some b → (b : Int) < i →
      p.Wrong query (p.name ++ " must not be greater than " ++ String.ofList (Text.ofNat b))

def field (p : Parameter) : FieldSpec := parameter p.name (.min 0 :: p.greatest.toList.map fun (n : Nat) => .max n)

theorem coerce_field (p : Parameter) {v : Value} {i : Int} (h : integer? v = some i) :
    coerce v p.field.kind = some (.ofInt i) := by
  show (integer? v).map Value.ofInt = _
  rw [h]
  rfl

theorem reads_or_wrong (p : Parameter) (query : Members) : (∃ r, p.Reads query r) ∨ ∃ m, p.Wrong query m := by
  by_cases hg : Gives query p.name
  · obtain ⟨v, hv, hn⟩ := hg
    cases hi : integer? v with
    | none => exact .inr ⟨_, .kind hv hn hi⟩
    | some i =>
      by_cases h0 : i < 0
      · exact .inr ⟨_, .below hv hn hi h0⟩
      · obtain ⟨n, rfl⟩ := Int.eq_ofNat_of_zero_le (Int.not_lt.mp h0)
        by_cases hb : ∃ b, p.greatest = some b ∧ b < n
        · obtain ⟨b, hb, hlt⟩ := hb
          exact .inr ⟨_, .above hv hn hi hb (Int.ofNat_lt.mpr hlt)⟩
        · exact .inl ⟨_, .given hv hn hi fun b h => Nat.not_lt.mp fun hlt => hb ⟨b, h, hlt⟩⟩
  · exact .inl ⟨none, .missing hg⟩

theorem Reads.gives {p : Parameter} {query : Members} {n : Nat} (h : p.Reads query (some n)) :
    Gives query p.name := by
  cases h with
  | given hv hn hi hb => exact ⟨_, hv, hn⟩

theorem Reads.le_maxInt64 {p : Parameter} {query : Members} {n : Nat} (h : p.Reads query (some n)) :
    n ≤ 9223372036854775807 := by
  cases h with
  | given hv hn hi hb =>
    have h64 := isInt64_of_integer? hi
    unfold IsInt64 at h64
    omega

section
variable {p : Parameter} {query : Members} (small : ∀ b, p.greatest = some b → b < 2 ^ 53)
include small

theorem Reads.accepts {r : Option Nat} (h : p.Reads query r) :
    p.field.Accepts (query.get? p.name) (r.map Value.ofNat) := by
  cases h with
  | missing hn =>
    cases hg : query.get? p.name with
    | none => exact .missing rfl
    | some v =>
      obtain rfl : v = .null := Classical.byContradiction fun hv => hn ⟨v, hg, hv⟩
      exact .null rfl
  | @given v n hv hn hi hb =>
    have h64 := isInt64_of_integer? hi
    rw [hv]
    refine .value hn (p.coerce_field hi) fun c hcs => ?_
    obtain ⟨rule, hr, rfl⟩ := List.mem_map.mp hcs
    rcases List.mem_cons.mp hr with rfl | hr
    · exact (satisfies_min_iff_of_lt h64 (by decide)).mpr (Int.natCast_nonneg n)
    · obtain ⟨b, hbm, rfl⟩ := List.mem_map.mp hr
      have hg : p.greatest = some b := Option.mem_toList.mp hbm
      exact (satisfies_max_iff_of_lt (b := (b : Int)) h64 (small b hg)).mpr (Int.ofNat_le.mpr (hb b hg))

theorem Reads.accepted {r : Option Nat} (h : p.Reads query r) :
    (checkField p.field (query.get? p.field.name)).accepted? = some (p.field.taken query) := by
  have ha : p.field.Accepts (query.get? p.field.name) (r.map Value.ofNat) := h.accepts small
  rw [(accepted_checkField_iff _ _ _).mpr ha, ha.eq_taken]

/-- what is wrong with a parameter is the first violation of its field -/
theorem Wrong.invalid {m : String} (h : p.Wrong query m) : ∃ c vs,
    checkField p.field (query.get? p.name) = .invalid (⟨p.name, c, m, false⟩ :: vs) ∧ c ≠ .cursorConflict := by
  cases h with
  | @kind v hv hn hi =>
    have hc : coerce v p.field.kind = none := by
      show (integer? v).map Value.ofInt = _
      rw [hi]
      rfl
    have hm : p.name ++ " must be an integer number" = p.name ++ " must be " ++ "an integer number" := by
      rw [String.append_assoc]
      rfl
    refine ⟨.type, [], ?_, by decide⟩
    rw [hv, checkField_some _ hn, hc, hm]
    rfl
  | @below v i hv hn hi h0 =>
    have broken : satisfies (.min 0) (.ofInt i) ≠ true :=
      mt (satisfies_min_iff_of_lt (isInt64_of_integer? hi) (by decide)).mp (Int.not_le.mpr h0)
    have hm : p.name ++ " must not be less than 0" = "" ++ p.name ++ " must not be less than " ++ "0" := by
      rw [String.empty_append, String.append_assoc]
      rfl
    obtain ⟨vs, hvs⟩ := checkField_of_broken hn (p.coerce_field hi) (List.nil_append _).symm
      (fun c hc => absurd hc List.not_mem_nil) broken
    refine ⟨.min, vs, ?_, by decide⟩
    rw [hv, hvs, hm]
    rfl
  | @above v i b hv hn hi hb hlt =>
    have h64 := isInt64_of_integer? hi
    -- the least value is looked at first, and kept
    have kept : satisfies (.min 0) (.ofInt i) = true := (satisfies_min_iff_of_lt h64 (by decide)).mpr (by omega)
    have broken : satisfies (.max b) (.ofInt i) ≠ true :=
      mt (satisfies_max_iff_of_lt (b := (b : Int)) h64 (small b hb)).mp (Int.not_le.mpr hlt)
    have hs : p.field.constraints = [⟨.min 0, false, none⟩] ++ ⟨.max b, false, none⟩ :: [] := by
      unfold field parameter
      rw [hb]
      rfl
    obtain ⟨vs, hvs⟩ := checkField_of_broken hn (p.coerce_field hi) hs (fun c hc => List.mem_singleton.mp hc ▸ kept) broken
    refine ⟨.max, vs, ?_, by decide⟩
    rw [hv, hvs, ← String.empty_append (s := p.name)]
    rfl

end

end Parameter

/-- the parameters of a page, in the order in which they are looked at -/
def parameters : List Parameter := [.limit, .offset, .cursor]

def names : List String := parameters.map Parameter.name

theorem forall_mem_parameters {P : Parameter → Prop} :
    (∀ p ∈ parameters, P p) ↔ P .limit ∧ P .offset ∧ P .cursor := by
  simp [parameters]

theorem small_of_mem {p : Parameter} (hp : p ∈ parameters) (b : Nat) (hb : p.greatest = some b) : b < 2 ^ 53 := by
  have h : ∀ p ∈ parameters, ∀ b ∈ p.greatest, b < 2 ^ 53 := by decide
  exact h p hp b hb

/-! ## decisions -/

/-- whether a query has both an offset and a cursor -/
def Conflict (query : Members) : Prop := Gives query "offset" ∧ Gives query "cursor"

/-- the key of some property whose bytes are least -/
structure LeastKey (keys : List String) (P : String → Prop) (key : String) : Prop where
  mem : key ∈ keys
  holds : P key
  least : ∀ key' ∈ keys, P key' → Utf8.ofText key ≤ Utf8.ofText key'

/-- what is decided about a query -/
inductive Decides (query : Members) : Except Failure Pagination → Prop
  /-- an offset and a cursor, whatever else there is -/
  | conflict : Conflict query →
      Decides query (.error (.cursorConflict "cursor" (some "offset and cursor cannot be used together")))
  /-- the first parameter that is wrong -/
  | wrong {p : Parameter} {m : String} {before after : List Parameter} : ¬ Conflict query →
      parameters = before ++ p :: after → (∀ p' ∈ before, ∃ r, p'.Reads query r) → p.Wrong query m →
      Decides query (.error (.invalidInput p.name (some m)))
  /-- the least key that is no parameter -/
  | undeclared {key : String} : ¬ Conflict query → (∀ p ∈ parameters, ∃ r, p.Reads query r) →
      LeastKey query.keys (· ∉ names) key →
      Decides query (.error (.invalidInput key (some ("property " ++ key ++ " should not exist"))))
  | page {l o c : Option Nat} : ¬ Conflict query → (∀ key ∈ query.keys, key ∈ names) →
      Parameter.limit.Reads query l → Parameter.offset.Reads query o → Parameter.cursor.Reads query c →
      Decides query (.ok ⟨l.getD 100, o, c⟩)

/-- of keys in order, the first that has some property is the least that has it -/
theorem leastKey_iff {keys : List String} (sorted : keys.Pairwise (· < ·)) (P : String → Prop) [DecidablePred P]
    (key : String) : LeastKey keys P key ↔ ∃ rest, keys.filter (fun k => decide (P k)) = key :: rest := by
  have least_of_cons : ∀ {key rest}, keys.filter (fun k => decide (P k)) = key :: rest → LeastKey keys P key := by
    intro key rest hf
    obtain ⟨hm, hP⟩ := List.mem_filter.mp (hf ▸ List.mem_cons_self : key ∈ keys.filter fun k => decide (P k))
    refine ⟨hm, of_decide_eq_true hP, fun key' hm' hP' => ?_⟩
    -- whatever else has the property is behind the first that has it
    have hs : (key :: rest).Pairwise (· < ·) := hf ▸ sorted.filter _
    have hk : key' ∈ key :: rest := hf ▸ List.mem_filter.mpr ⟨hm', decide_eq_true hP'⟩
    rcases List.mem_cons.mp hk with rfl | hk
    · exact List.le_refl _
    · exact List.le_of_lt (Utf8.ofText_lt_iff.mpr ((List.pairwise_cons.mp hs).1 key' hk))
  constructor
  · intro h
    cases hf : keys.filter fun k => decide (P k) with
    | nil => exact absurd (decide_eq_true h.holds) (List.filter_eq_nil_iff.mp hf key h.mem)
    | cons first rest =>
      have hfirst := least_of_cons hf
      have hle := List.le_antisymm (h.least first hfirst.mem hfirst.holds) (hfirst.least key h.mem h.holds)
      obtain rfl : key = first := String.toList_injective (Utf8.encode_injective hle)
      exact ⟨rest, rfl⟩
  · rintro ⟨rest, hf⟩
    exact least_of_cons hf

/-- each of some parameters is read, or there is a first one that is wrong -/
theorem read_or_first_wrong (query : Members) (ps : List Parameter) : (∀ p ∈ ps, ∃ r, p.Reads query r) ∨
    ∃ before p after m, ps = before ++ p :: after ∧ (∀ p' ∈ before, ∃ r, p'.Reads query r) ∧ p.Wrong query m := by
  induction ps with
  | nil => exact .inl fun p hp => absurd hp List.not_mem_nil
  | cons p ps ih =>
    rcases p.reads_or_wrong query with hr | ⟨m, hm⟩
    · rcases ih with hall | ⟨before, p', after, m, rfl, hb, hm⟩
      · exact .inl (List.forall_mem_cons.mpr ⟨hr, hall⟩)
      · exact .inr ⟨p :: before, p', after, m, rfl, List.forall_mem_cons.mpr ⟨hr, hb⟩, hm⟩
    · exact .inr ⟨[], p, ps, m, rfl, fun p' hp' => absurd hp' List.not_mem_nil, hm⟩

/-- some rule applies -/
theorem exists_decides {query : Members} (sorted : query.Sorted) : ∃ r, Decides query r := by
  by_cases clear : Conflict query
  · exact ⟨_, .conflict clear⟩
  -- the rules ask in turn: a wrong parameter, a key that is none, and nothing of either
  rcases read_or_first_wrong query parameters with right | ⟨before, p, after, m, hs, hb, hm⟩
  · cases hf : query.keys.filter fun k => decide (k ∉ names) with
    | nil =>
      have declared : ∀ key ∈ query.keys, key ∈ names := fun key hk =>
        Decidable.byContradiction fun hn => List.filter_eq_nil_iff.mp hf key hk (decide_eq_true hn)
      obtain ⟨⟨l, hl⟩, ⟨o, ho⟩, ⟨c, hc⟩⟩ := forall_mem_parameters.mp right
      exact ⟨_, .page clear declared hl ho hc⟩
    | cons key rest =>
      have hkeys : query.keys.Pairwise (· < ·) := List.pairwise_map.mpr sorted
      exact ⟨_, .undeclared clear right ((leastKey_iff hkeys _ key).mpr ⟨rest, hf⟩)⟩
  · exact ⟨_, .wrong clear hs hb hm⟩

/-! ## the report -/

section
variable {query : Members}

theorem objectViolations_of_conflict (h : Conflict query) : (check schema query none).objectViolations
    = [⟨"cursor", .cursorConflict, "offset and cursor cannot be used together", false⟩] := by
  obtain ⟨ho, hc⟩ := h
  have hp : (isPresent query "offset" && isPresent query "cursor") = true := by
    rw [(isPresent_iff query "offset").mpr ho, (isPresent_iff query "cursor").mpr hc]
    rfl
  have hv : conflict.violation? query (coercedFields schema.fields query) none
      = some ⟨"cursor", .cursorConflict, "offset and cursor cannot be used together", false⟩ := if_pos hp
  exact List.filterMap_cons_some hv

theorem objectViolations_of_clear (h : ¬ Conflict query) : (check schema query none).objectViolations = [] := by
  rw [objectViolations_eq_nil_iff]
  intro r hr
  obtain rfl : r = conflict := List.mem_singleton.mp hr
  refine (violation?_exclusive_eq_none_iff ..).mpr ?_
  rw [isPresent_iff, isPresent_iff]
  exact h

/-- without a conflict the first failing field is reported -/
theorem failure?_of_clear (h : ¬ Conflict query) {f : FieldFailure} {fs : List FieldFailure}
    (hf : (check schema query none).fieldFailures = f :: fs) {v : Violation} {vs : List Violation}
    (hv : f.violations = v :: vs) : (check schema query none).failure? = some v.failure := by
  unfold Report.failure? Report.selected
  rw [objectViolations_of_clear h, hf]
  show Option.map Violation.failure (none.or (f.violations.head?.or none)) = _
  rw [hv]
  rfl

theorem declaredFailures_of_reads {ps : List Parameter} (hp : ∀ p ∈ ps, p ∈ parameters)
    (right : ∀ p ∈ ps, ∃ r, p.Reads query r) : declaredFailures (ps.map Parameter.field) query = [] := by
  rw [declaredFailures_eq_nil_iff]
  intro f hf
  obtain ⟨p, hps, rfl⟩ := List.mem_map.mp hf
  obtain ⟨r, hr⟩ := right p hps
  exact hr.accepted (small_of_mem (hp p hps))

theorem validate_of_failure {f : Failure} (h : (check schema query none).failure? = some f) :
    Pagination.validate (.object query) = .error f := by
  have h' : (check target.schema query none).failure? = some f := h
  unfold Pagination.validate
  rw [validate_of_reads target (.object query), h']

theorem validate_of_wrong {p : Parameter} {m : String} {before after : List Parameter} (clear : ¬ Conflict query)
    (split : parameters = before ++ p :: after) (right : ∀ p' ∈ before, ∃ r, p'.Reads query r)
    (wrong : p.Wrong query m) : Pagination.validate (.object query) = .error (.invalidInput p.name (some m)) := by
  -- the fields before this one fail in nothing, so that its failure is the first
  have hp : p ∈ parameters := split ▸ List.mem_append_right before List.mem_cons_self
  obtain ⟨c, vs, hi, hc⟩ := wrong.invalid (small_of_mem hp)
  have hb := declaredFailures_of_reads (fun p' h => split ▸ List.mem_append_left (p :: after) h) right
  have hd : declaredFailures schema.fields query
      = ⟨p.name, ⟨p.name, c, m, false⟩ :: vs⟩ :: declaredFailures (after.map Parameter.field) query := by
    show declaredFailures (parameters.map Parameter.field) query = _
    unfold declaredFailures at hb ⊢
    rw [split, List.map_append, List.filterMap_append, hb, List.nil_append, List.map_cons]
    refine List.filterMap_cons_some ?_
    rw [show checkField p.field (query.get? p.field.name) = _ from hi]
    rfl
  have hf : (check schema query none).fieldFailures = _ := congrArg (· ++ undeclaredFailures schema query) hd
  rw [validate_of_failure (failure?_of_clear clear hf rfl), failure_of_ne hc]
  rfl

theorem declares_iff_mem_names (key : String) : schema.declares key = true ↔ key ∈ names := by
  rw [declares_iff]
  exact List.mem_map.symm

theorem undeclaredFailures_eq (query : Members) : undeclaredFailures schema query
    = (query.keys.filter fun k => decide (k ∉ names)).map undeclaredFailure := by
  unfold undeclaredFailures
  refine congrArg (List.map undeclaredFailure) (List.filter_congr fun key _ => ?_)
  rw [Bool.eq_iff_iff, decide_eq_true_iff, ← declares_iff_mem_names, Bool.not_eq_true', Bool.not_eq_true]

theorem validate_of_undeclared (sorted : query.Sorted) {key : String} (clear : ¬ Conflict query)
    (right : ∀ p ∈ parameters, ∃ r, p.Reads query r) (least : LeastKey query.keys (· ∉ names) key) :
    Pagination.validate (.object query)
      = .error (.invalidInput key (some ("property " ++ key ++ " should not exist"))) := by
  have hkeys : query.keys.Pairwise (· < ·) := List.pairwise_map.mpr sorted
  obtain ⟨rest, hr⟩ := (leastKey_iff hkeys _ key).mp least
  have hd : declaredFailures schema.fields query = [] := declaredFailures_of_reads (fun p hp => hp) right
  have hf : (check schema query none).fieldFailures = undeclaredFailure key :: rest.map undeclaredFailure := by
    show declaredFailures schema.fields query ++ undeclaredFailures schema query = _
    rw [hd, undeclaredFailures_eq, hr]
    rfl
  rw [validate_of_failure (failure?_of_clear clear hf rfl)]
  rfl

/-! ## the page -/

/-- the coerced object holds what the query says of its parameters -/
theorem get?_coercedFields_of_reads {p : Parameter} (hp : p ∈ parameters) {r : Option Nat} (h : p.Reads query r) :
    (coercedFields schema.fields query).get? p.name = r.map Value.ofNat := by
  have hf : p.field ∈ schema.fields := List.mem_map_of_mem hp
  have ha : p.field.Accepts (query.get? p.field.name) (r.map Value.ofNat) := h.accepts (small_of_mem hp)
  have distinct : (schema.fields.map FieldSpec.name).Nodup := by decide
  rw [ha.eq_taken]
  exact get?_coercedFields distinct query hf

/-- the fields of the record of a page -/
def recordFields : List Json.Field :=
  [⟨"limit", .uint32, false⟩, ⟨"offset", .optional .uint64, false⟩, ⟨"cursor", .optional .uint64, false⟩]

/-- what a parameter is read as fits into the field of the record -/
theorem fromValue_of_reads {n : Nat} : ∀ p ∈ parameters, p.Reads query (some n) →
    ∃ f, Reader.field? recordFields p.name = some f ∧ f.reader.fromValue (.ofNat n) = .ok (.ofNat n) := by
  have fits : ∀ p : Parameter, p.Reads query (some n) → (0 : Int) ≤ n ∧ (n : Int) ≤ Text.maxUInt64 := by
    intro p h
    have hn := h.le_maxInt64
    unfold Text.maxUInt64
    omega
  refine forall_mem_parameters.mpr ⟨fun h => ?_, fun h => ?_, fun h => ?_⟩
  · have h100 : n ≤ 100 := by
      cases h with
      | given hv hn hi hb => exact hb 100 rfl
    have h32 : (0 : Int) ≤ n ∧ (n : Int) ≤ Text.maxUInt32 := by
      unfold Text.maxUInt32
      omega
    exact ⟨_, rfl, Reader.fromValue_integer "u32" h32⟩
  · exact ⟨_, rfl, Reader.fromValue_integer "u64" (fits _ h)⟩
  · exact ⟨_, rfl, Reader.fromValue_integer "u64" (fits _ h)⟩

/-- the record of the coerced object is the object -/
theorem convert_coercedFields (right : ∀ p ∈ parameters, ∃ r, p.Reads query r) :
    reader.convert (.object (coercedFields schema.fields query))
      = .ok (.object (coercedFields schema.fields query)) := by
  have sorted : (coercedFields schema.fields query).Sorted := sorted_coercedFields _ _
  have optional : ∀ f ∈ recordFields, f.required = false := by simp [recordFields]
  have same : ∀ m ∈ coercedFields schema.fields query,
      ∃ f, Reader.field? recordFields m.1 = some f ∧ f.reader.fromValue m.2 = .ok m.2 := by
    intro m hm
    obtain ⟨f, hf, hname⟩ := exists_field_of_mem_keys (List.mem_map_of_mem hm)
    obtain ⟨p, hp, rfl⟩ : ∃ p ∈ parameters, p.field = f := List.mem_map.mp hf
    obtain ⟨r, hr⟩ := right p hp
    have hg := get?_coercedFields_of_reads hp hr
    rw [show p.name = m.1 from hname, Members.get?_of_mem sorted hm] at hg
    obtain ⟨n, rfl, hn⟩ := Option.map_eq_some_iff.mp hg.symm
    rw [← hname, ← hn]
    exact fromValue_of_reads p hp hr
  unfold Reader.convert
  rw [show reader = .record "PaginationParams" false recordFields from rfl,
    Reader.fromValue_record_of_same false optional _ sorted same]

theorem bind_coercedFields {l o c : Option Nat} (hl : Parameter.limit.Reads query l)
    (ho : Parameter.offset.Reads query o) (hc : Parameter.cursor.Reads query c) :
    target.bind (coercedFields schema.fields query) = .ok ⟨l.getD 100, o, c⟩ := by
  have nat : ∀ r : Option Nat, (r.map Value.ofNat).bind Value.nat? = r := fun r => by cases r <;> rfl
  obtain ⟨ml, mo, mc⟩ := forall_mem_parameters.mp fun p (hp : p ∈ parameters) => hp
  have hgl : (coercedFields schema.fields query).get? "limit" = _ := get?_coercedFields_of_reads ml hl
  have hgo : (coercedFields schema.fields query).get? "offset" = _ := get?_coercedFields_of_reads mo ho
  have hgc : (coercedFields schema.fields query).get? "cursor" = _ := get?_coercedFields_of_reads mc hc
  show (reader.convert (.object (coercedFields schema.fields query))).map ofRecord = _
  rw [convert_coercedFields (forall_mem_parameters.mpr ⟨⟨l, hl⟩, ⟨o, ho⟩, ⟨c, hc⟩⟩)]
  show Except.ok (Pagination.mk
    ((((coercedFields schema.fields query).get? "limit").bind Value.nat?).getD 100)
    (((coercedFields schema.fields query).get? "offset").bind Value.nat?)
    (((coercedFields schema.fields query).get? "cursor").bind Value.nat?)) = _
  rw [hgl, hgo, hgc, nat, nat, nat]

theorem validate_of_page {l o c : Option Nat} (clear : ¬ Conflict query)
    (declared : ∀ key ∈ query.keys, key ∈ names) (hl : Parameter.limit.Reads query l)
    (ho : Parameter.offset.Reads query o) (hc : Parameter.cursor.Reads query c) :
    Pagination.validate (.object query) = .ok ⟨l.getD 100, o, c⟩ := by
  have right : ∀ p ∈ parameters, ∃ r, p.Reads query r := forall_mem_parameters.mpr ⟨⟨l, hl⟩, ⟨o, ho⟩, ⟨c, hc⟩⟩
  have clean : (check target.schema query none).failure? = none := by
    refine (failure?_check_eq_none_iff ..).mpr ⟨declaredFailures_of_reads (fun p hp => hp) right, ?_,
      objectViolations_of_clear clear⟩
    exact (undeclaredFailures_eq_nil_iff ..).mpr fun key hk =>
      (declares_iff schema key).mp ((declares_iff_mem_names key).mpr (declared key hk))
  unfold Pagination.validate
  rw [validate_of_reads target (.object query), clean]
  show target.bound (coercedFields schema.fields query) = _
  unfold Target.bound
  rw [bind_coercedFields hl ho hc]

end

/-! ## every query -/

/-- which page some parameters name -/
inductive Selects : Pagination → Page → Prop
  | first (l : Nat) : Selects ⟨l, none, none⟩ (.first l)
  | offset (l o : Nat) : Selects ⟨l, some o, none⟩ (.offset l o)
  | cursor (l c : Nat) : Selects ⟨l, none, some c⟩ (.cursor l c)

/-- what is decided about a query is all that the validator does -/
structure Decided (query : Members) : Prop where
  /-- it answers as one rule says, and only one rule applies -/
  rule : ∀ r, Pagination.validate (.object query) = r ↔ Decides query r
  /-- what passes the check is bound -/
  bound : ∀ m d, Pagination.validate (.object query) ≠ .error (.internal m d)
  /-- a page has an offset or a cursor or neither, and is named accordingly -/
  page : ∀ p, Pagination.validate (.object query) = .ok p → Selects p p.page

theorem validate_of_decides {query : Members} (sorted : query.Sorted) {r : Except Failure Pagination}
    (h : Decides query r) : Pagination.validate (.object query) = r := by
  cases h with
  | conflict h =>
    have hf : (check schema query none).failure? =
        some (.cursorConflict "cursor" (some "offset and cursor cannot be used together")) := by
      unfold Report.failure? Report.selected
      rw [objectViolations_of_conflict h]
      rfl
    exact validate_of_failure hf
  | wrong clear split right wrong => exact validate_of_wrong clear split right wrong
  | undeclared clear right least => exact validate_of_undeclared sorted clear right least
  | page clear declared hl ho hc => exact validate_of_page clear declared hl ho hc

theorem decided_of_sorted {query : Members} (sorted : query.Sorted) : Decided query := by
  obtain ⟨r, hr⟩ := exists_decides sorted
  have hv := validate_of_decides sorted hr
  constructor
  case rule =>
    intro r'
    constructor
    · rintro rfl
      exact hv ▸ hr
    · exact validate_of_decides sorted
  case bound =>
    intro m d h
    rw [hv] at h
    subst h
    cases hr
  case page =>
    intro p h
    rw [hv] at h
    subst h
    cases hr with
    | @page l o c clear declared hl ho hc =>
      cases o with
      | none => cases c <;> constructor
      | some o =>
        cases c with
        | none => exact .offset _ o
        | some c => exact absurd ⟨ho.gives, hc.gives⟩ clear

/-- **Pagination is decided completely**: exactly one rule applies to every object and to every query string, and
it is what the validator answers; what passes the check is bound, to a page with an offset or a cursor or neither. -/
theorem pagination_decided :
    (∀ query : Members, query.Sorted → Decided query) ∧ ∀ text : String, Decided (Query.parse text) :=
  ⟨fun _ sorted => decided_of_sorted sorted, fun text => decided_of_sorted (Query.sorted_parse text)⟩

/-- a limit as a text, an offset as a number, and a cursor that is null -/
def secondPage : Members := [("cursor", .null), ("limit", .string " 7"), ("offset", .ofInt 3)]

/-- the second page is one, and a cursor beside its offset is a conflict, whatever else there is -/
theorem pagination_decided_second : secondPage.Sorted ∧
    Pagination.validate (.object secondPage) = .ok ⟨7, some 3, none⟩ ∧
    Pagination.validate (.object (Query.parse "offset=3&limit=x&cursor=1&cursor=2&zone=1"))
      = .error (.cursorConflict "cursor" (some "offset and cursor cannot be used together")) := by
  have sorted : secondPage.Sorted := by unfold Members.Sorted; decide
  have clear : ¬ Conflict secondPage := by
    rintro ⟨-, v, hv, hn⟩
    cases hv
    exact hn rfl
  have hl : Parameter.limit.Reads secondPage (some 7) := .given rfl nofun rfl fun b hb => by
    cases hb
    decide
  have ho : Parameter.offset.Reads secondPage (some 3) := .given rfl nofun rfl nofun
  have hc : Parameter.cursor.Reads secondPage none := .missing fun ⟨v, hv, hn⟩ => by
    cases hv
    exact hn rfl
  have declared : ∀ key ∈ secondPage.keys, key ∈ names := by decide
  have conflict : Conflict (Query.parse "offset=3&limit=x&cursor=1&cursor=2&zone=1") :=
    ⟨(isPresent_iff _ "offset").mp (by decide +kernel), (isPresent_iff _ "cursor").mp (by decide +kernel)⟩
  exact ⟨sorted, ((pagination_decided.1 secondPage sorted).rule _).mpr (.page clear declared hl ho hc),
    ((pagination_decided.2 _).rule _).mpr (.conflict conflict)⟩

end Pagination
end Validation
end RequestPipeline
