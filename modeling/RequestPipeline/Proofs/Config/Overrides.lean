import RequestPipeline.Config.Loader
import RequestPipeline.Proofs.Keyed

/-!
# Settings in variables

The variable `STEM__SECTION__KEY` holds one setting, and no other variable with that stem does
(`ofVariable?_eq_some_iff`).  Variables are written over settings one by one.

* `Key.variableName`        the variable of a setting;
* `Settings.ext_get`        settings are what is read from them;
* `putVariables_eq_ok_iff`  **every setting ends as the last variable of its name says, or as it was; and nothing
                            else can keep variables from being written than a value that its key does not take.**
-/

namespace RequestPipeline

namespace Text

/-- the pieces with `sep sep` between them -/
def joinPair (sep : Char) : List (List Char) → List Char
  | [] => []
  | [p] => p
  | p :: q :: ps => p ++ sep :: sep :: joinPair sep (q :: ps)

theorem splitPair_ne_nil (sep : Char) (cs : List Char) : splitPair sep cs ≠ [] := by
  fun_cases splitPair sep cs <;> simp [*]

theorem joinPair_cons_cons (sep c : Char) (p : List Char) (ps : List (List Char)) :
    joinPair sep ((c :: p) :: ps) = c :: joinPair sep (p :: ps) := by
  cases ps <;> rfl

theorem joinPair_splitPair (sep : Char) (cs : List Char) : joinPair sep (splitPair sep cs) = cs := by
  induction cs using splitPair.induct sep with
  | case1 => rfl
  | case2 c => rfl
  | case3 c d cs h ih =>
    obtain ⟨rfl, rfl⟩ := h
    rw [splitPair, if_pos ⟨rfl, rfl⟩]
    cases hs : splitPair d cs with
    | nil => exact absurd hs (splitPair_ne_nil d cs)
    | cons p ps =>
      rw [hs] at ih
      rw [joinPair, ih]
      rfl
  | case4 c d cs h he ih => exact absurd he (splitPair_ne_nil sep _)
  | case5 c d cs h p ps hs ih =>
    rw [splitPair, if_neg h, hs]
    rw [hs] at ih
    dsimp only
    rw [joinPair_cons_cons, ih]

theorem dropFront?_eq_some_iff {front cs rest : List Char} : dropFront? front cs = some rest ↔ cs = front ++ rest := by
  induction front generalizing cs with
  | nil => simp [dropFront?]
  | cons f fs ih =>
    cases cs with
    | nil => simp [dropFront?]
    | cons c cs =>
      by_cases h : f = c
      · subst h
        simp [dropFront?, ih]
      · simp [dropFront?, h, Ne.symm h]

end Text

/-! ## the variable of a setting -/

namespace Key

/-- the name of the variable that holds a setting -/
def variableName (stem : String) (k : Key) : String :=
  stem ++ "__" ++ Text.upper k.home.name ++ "__" ++ Text.upper k.name

theorem mem_all (k : Key) : k ∈ all := by
  cases k <;> decide

theorem find?_variable_iff {k : Key} {parts : List String} :
    (all.find? fun k => k.variable == parts) = some k ↔ k.variable = parts := by
  have apart : ∀ j ∈ all, ∀ k ∈ all, j.variable = k.variable → j = k := by decide +kernel
  exact (Keyed.find?_name_iff apart).trans (and_iff_right (mem_all k))

/-- the name of a setting is cut behind its section, and nowhere else -/
theorem splitPair_variable (k : Key) :
    Text.splitPair '_' (Text.joinPair '_' (k.variable.map String.toList)) = k.variable.map String.toList := by
  have all_cut : ∀ k ∈ all,
      Text.splitPair '_' (Text.joinPair '_' (k.variable.map String.toList)) = k.variable.map String.toList := by
    decide +kernel
  exact all_cut k (mem_all k)

theorem variable_eq_splitPair_iff {k : Key} {rest : List Char} :
    k.variable = (Text.splitPair '_' rest).map String.ofList ↔
      rest = Text.joinPair '_' (k.variable.map String.toList) := by
  constructor
  · intro h
    have hs : Text.splitPair '_' rest = k.variable.map String.toList := by
      rw [h, List.map_map]
      simp [Function.comp_def]
    rw [← hs, Text.joinPair_splitPair]
  · rintro rfl
    rw [splitPair_variable, List.map_map]
    simp [Function.comp_def]

/-- **A variable names a setting exactly if its name is the one of that setting.** -/
theorem ofVariable?_eq_some_iff {stem name : String} {k : Key} :
    ofVariable? stem name = some k ↔ name = k.variableName stem := by
  have joined : (k.variableName stem).toList =
      stem.toList ++ ['_', '_'] ++ Text.joinPair '_' (k.variable.map String.toList) := by
    simp [variableName, Key.variable, Text.joinPair]
  unfold ofVariable?
  rw [Option.bind_eq_bind, Option.bind_eq_some_iff, ← String.toList_inj, joined]
  constructor
  · rintro ⟨rest, hr, hk⟩
    rw [Text.dropFront?_eq_some_iff.mp hr, variable_eq_splitPair_iff.mp (find?_variable_iff.mp hk)]
  · intro h
    exact ⟨_, Text.dropFront?_eq_some_iff.mpr h, find?_variable_iff.mpr (variable_eq_splitPair_iff.mpr rfl)⟩

theorem variableName_injective {stem : String} {j k : Key} (h : j.variableName stem = k.variableName stem) : j = k :=
  Option.some.inj ((ofVariable?_eq_some_iff.mpr h).symm.trans (ofVariable?_eq_some_iff.mpr rfl)).symm

end Key

/-! ## values -/

theorem SettingKind.exists_count {value : String} {v : Setting} (h : ofVariable.count value = .ok v) :
    ∃ n, v = .count n := by
  unfold ofVariable.count at h
  split at h
  · cases h
    exact ⟨_, rfl⟩
  · cases h

/-- the value of a variable is of the kind of its setting -/
theorem SettingKind.fits_of_ofVariable {kind : SettingKind} {value : String} {v : Setting}
    (h : kind.ofVariable value = .ok v) : v.fits kind = true := by
  cases kind with
  | text =>
    cases h
    rfl
  | flag =>
    dsimp only [ofVariable] at h
    split at h <;> cases h
    rfl
  | seconds =>
    obtain ⟨n, rfl⟩ := exists_count h
    rfl
  | size =>
    obtain ⟨n, rfl⟩ := exists_count h
    rfl
  | numbers =>
    dsimp only [ofVariable] at h
    split at h <;> cases h
    rfl

/-- how a setting ends under a variable: as the value says, or as it was if there is none -/
inductive Key.Ends (k : Key) (before : Setting) : Option String → Setting → Prop
  | written {value : String} {v : Setting} : k.kind.ofVariable value = .ok v → k.Ends before (some value) v
  | kept : k.Ends before none before

namespace Key
variable {k : Key} {before v : Setting}

theorem ends_some_iff {value : String} : k.Ends before (some value) v ↔ k.kind.ofVariable value = .ok v := by
  refine ⟨fun h => ?_, .written⟩
  cases h with
  | written h => exact h

theorem ends_none_iff : k.Ends before none v ↔ v = before := by
  refine ⟨fun h => ?_, fun h => h ▸ .kept⟩
  cases h with
  | kept => rfl

end Key

/-! ## variables -/

namespace Variables

/-- whether each name comes once -/
def Named (vs : Variables) : Prop := (vs.map Prod.fst).Nodup

theorem find?_cons (e : String × String) (vs : Variables) (name : String) :
    find? (e :: vs) name = if name = e.1 then some e.2 else vs.find? name := Keyed.lookup_cons e vs name

theorem find?_of_mem {vs : Variables} (named : vs.Named) {name value : String} (h : (name, value) ∈ vs) :
    vs.find? name = some value := Keyed.lookup_of_mem named h

/-- the order of variables that come once each does not matter -/
theorem find?_of_perm {vs vs' : Variables} (named : vs.Named) (h : vs.Perm vs') (name : String) :
    vs.find? name = vs'.find? name := by
  have named' : vs'.Named := (h.map Prod.fst).nodup_iff.mp named
  refine Option.ext fun value => ⟨fun found => ?_, fun found => ?_⟩
  · exact find?_of_mem named' (h.mem_iff.mp (Keyed.mem_of_lookup found))
  · exact find?_of_mem named (h.mem_iff.mpr (Keyed.mem_of_lookup found))

theorem find?_reverse {vs : Variables} (named : vs.Named) (name : String) : find? vs.reverse name = vs.find? name :=
  (find?_of_perm named (List.reverse_perm vs).symm name).symm

end Variables

namespace Settings

/-- settings are what is read from them -/
theorem ext_get {s t : Settings} (h : ∀ k, s.get k = t.get k) : s = t := by
  obtain ⟨⟨a, b, c, d⟩, ⟨e, f⟩, ⟨g, i, j⟩, ⟨l, m, n, o, p, q⟩, ⟨r, u⟩⟩ := s
  obtain ⟨⟨a', b', c', d'⟩, ⟨e', f'⟩, ⟨g', i', j'⟩, ⟨l', m', n', o', p', q'⟩, ⟨r', u'⟩⟩ := t
  cases h .address
  cases h .shutdownTimeout
  cases h .requestTimeout
  cases h .maxBody
  cases h .correlationHeader
  cases h .trustIncoming
  cases h .maxMessage
  cases h .maxFrame
  cases h .idleTimeout
  cases h .logEnabled
  cases h .logLevel
  cases h .logJson
  cases h .logSpans
  cases h .logLines
  cases h .logTarget
  cases h .metricsEnabled
  cases h .buckets
  rfl

/-! ## writing variables -/

section
variable {stem : String} {pairs : List (String × String)} {s s' : Settings}

/-- whether every variable that names a setting has a value of its kind -/
def Parse (stem : String) (pairs : List (String × String)) : Prop :=
  ∀ p ∈ pairs, ∀ k : Key, p.1 = k.variableName stem → ∃ v, k.kind.ofVariable p.2 = .ok v

theorem parse_nil : Parse stem [] := List.forall_mem_nil _

theorem parse_cons {name value : String} : Parse stem ((name, value) :: pairs) ↔
    (∀ k : Key, name = k.variableName stem → ∃ v, k.kind.ofVariable value = .ok v) ∧ Parse stem pairs :=
  List.forall_mem_cons

theorem putVariable_of_unnamed {name : String} (h : ∀ k : Key, name ≠ k.variableName stem) (value : String) :
    s.putVariable stem name value = .ok s := by
  unfold putVariable
  cases hk : Key.ofVariable? stem name with
  | none => rfl
  | some k => exact absurd (Key.ofVariable?_eq_some_iff.mp hk) (h k)

theorem putVariable_variableName (k : Key) (value : String) :
    s.putVariable stem (k.variableName stem) value = match k.kind.ofVariable value with
      | .ok v => .ok (s.put k v)
      | .error reason => .error (.badVariable (k.variableName stem) reason) := by
  have named : Key.ofVariable? stem (k.variableName stem) = some k := Key.ofVariable?_eq_some_iff.mpr rfl
  unfold putVariable
  cases hv : k.kind.ofVariable value <;> simp only [named, hv]

theorem find?_reverse_cons (p : String × String) (name : String) :
    Variables.find? (p :: pairs).reverse name =
      (Variables.find? pairs.reverse name).or (if name = p.1 then some p.2 else none) := by
  unfold Variables.find?
  rw [List.reverse_cons, List.lookup_append]
  exact congrArg _ (Variables.find?_cons p [] name)

/-- one more variable in front: it counts if none behind it has its name -/
theorem ends_cons_iff {j : Key} {value : String} {v : Setting} (hv : j.kind.ofVariable value = .ok v) (k : Key)
    (after : Setting) :
    k.Ends ((s.put j v).get k) (Variables.find? pairs.reverse (k.variableName stem)) after ↔
      k.Ends (s.get k) (Variables.find? ((j.variableName stem, value) :: pairs).reverse (k.variableName stem))
        after := by
  rw [find?_reverse_cons]
  cases Variables.find? pairs.reverse (k.variableName stem) with
  | some w => rw [Option.some_or, Key.ends_some_iff, Key.ends_some_iff]
  | none =>
    rw [Option.none_or, Key.ends_none_iff]
    by_cases hk : k = j
    · subst hk
      rw [if_pos rfl, Key.ends_some_iff, get_put_self (SettingKind.fits_of_ofVariable hv), hv]
      exact ⟨fun h => congrArg _ h.symm, fun h => (Except.ok.inj h).symm⟩
    · rw [if_neg (mt Key.variableName_injective hk), Key.ends_none_iff, get_put_of_ne hk]

/-- **Every setting ends as the last variable of its name says, or as it was.**  Only a value that is not of the kind
of its setting keeps variables from being written. -/
theorem putVariables_eq_ok_iff :
    s.putVariables stem pairs = .ok s' ↔
      Parse stem pairs ∧
        ∀ k : Key, k.Ends (s.get k) (Variables.find? pairs.reverse (k.variableName stem)) (s'.get k) := by
  -- for all settings: what the first variable writes is what the others may leave as it is
  induction pairs generalizing s with
  | nil =>
    constructor
    · intro h
      cases h
      exact ⟨parse_nil, fun _ => .kept⟩
    · rintro ⟨-, h⟩
      rw [ext_get fun k => Key.ends_none_iff.mp (h k)]
      rfl
  | cons p pairs ih =>
    obtain ⟨name, value⟩ := p
    rw [putVariables, parse_cons]
    by_cases hn : ∃ k : Key, name = k.variableName stem
    · obtain ⟨j, rfl⟩ := hn
      rw [putVariable_variableName]
      cases hv : j.kind.ofVariable value with
      | error reason =>
        refine ⟨nofun, fun h => ?_⟩
        obtain ⟨v, hok⟩ := h.1.1 j rfl
        cases hv.symm.trans hok
      | ok v =>
        dsimp only
        have parses : ∀ k : Key, j.variableName stem = k.variableName stem → ∃ v, k.kind.ofVariable value = .ok v :=
          fun k h => Key.variableName_injective h ▸ ⟨v, hv⟩
        rw [ih, and_iff_right parses]
        exact and_congr_right fun _ => forall_congr' fun k => ends_cons_iff hv k _
    · have hne : ∀ k : Key, name ≠ k.variableName stem := fun k h => hn ⟨k, h⟩
      rw [putVariable_of_unnamed hne, and_iff_right fun k h => absurd h (hne k)]
      dsimp only
      rw [ih]
      refine and_congr_right fun _ => forall_congr' fun k => ?_
      rw [find?_reverse_cons, if_neg (hne k).symm, Option.or_none]

/-- of variables that come once each, there is no last one to look for -/
theorem putVariables_of_named (named : Variables.Named pairs) :
    s.putVariables stem pairs = .ok s' ↔
      ∀ k : Key, k.Ends (s.get k) (Variables.find? pairs (k.variableName stem)) (s'.get k) := by
  simp only [putVariables_eq_ok_iff, Variables.find?_reverse named]
  refine and_iff_right_of_imp fun h p hp k hk => ?_
  have he := h k
  rw [← hk, Variables.find?_of_mem named hp] at he
  exact ⟨_, Key.ends_some_iff.mp he⟩

end

end Settings

end RequestPipeline
