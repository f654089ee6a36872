import RequestPipeline.Proofs.Config.Overrides

/-!
# Variables over a loaded configuration

Variables are written one after another, and each of them writes its own setting or fails.  So only the last variable of
a setting counts, the first that cannot be read is the one that is reported, and where no name comes twice the order of
the variables does not matter.

* `FirstBad`                    the variable that is reported;
* `putVariables_eq_error_iff`   a fault is that of the first variable that cannot be read;
* `putVariables_unnamed`        a variable of another name is as good as none;
* `putVariables_perm`           variables that come once each can be written in any order.

`load_overrides`: **what a loader makes of a list of variables.**
-/

namespace RequestPipeline

namespace Settings

/-- whether the first variable whose value is not of the kind of its setting is the one of a fault -/
def FirstBad (stem : String) (pairs : List (String × String)) (fault : ConfigFault) : Prop :=
  ∃ front k value reason rest, pairs = front ++ (Key.variableName stem k, value) :: rest ∧ Parse stem front ∧
    k.kind.ofVariable value = .error reason ∧ fault = .badVariable (k.variableName stem) reason

section
variable {stem : String} {pairs front rest : List (String × String)} {s s' : Settings} {fault : ConfigFault}

theorem putVariables_append : s.putVariables stem (front ++ rest) =
    (s.putVariables stem front).bind fun s => s.putVariables stem rest := by
  induction front generalizing s with
  | nil => rfl
  | cons p front ih =>
    rw [List.cons_append, putVariables, putVariables]
    cases s.putVariable stem p.1 p.2 with
    | error fault => rfl
    | ok s => exact ih

/-- variables that can be read can be written -/
theorem exists_putVariables (h : Parse stem pairs) : ∃ s', s.putVariables stem pairs = .ok s' := by
  induction pairs generalizing s with
  | nil => exact ⟨s, rfl⟩
  | cons p pairs ih =>
    obtain ⟨hp, h⟩ := parse_cons.mp h
    obtain ⟨s', hs⟩ : ∃ s', s.putVariable stem p.1 p.2 = .ok s' := by
      by_cases hn : ∃ k : Key, p.1 = k.variableName stem
      · obtain ⟨k, hk⟩ := hn
        obtain ⟨v, hv⟩ := hp k hk
        rw [hk, putVariable_variableName, hv]
        exact ⟨_, rfl⟩
      · exact ⟨s, putVariable_of_unnamed (fun k hk => hn ⟨k, hk⟩) p.2⟩
    rw [putVariables, hs]
    exact ih h

theorem putVariables_eq_error_iff : s.putVariables stem pairs = .error fault ↔ FirstBad stem pairs fault := by
  constructor
  · intro h
    induction pairs generalizing s with
    | nil => cases h
    | cons p pairs ih =>
      obtain ⟨name, value⟩ := p
      -- where the first one can be read, the bad one is behind it
      have behind (hp : ∀ k : Key, name = k.variableName stem → ∃ v, k.kind.ofVariable value = .ok v) :
          FirstBad stem pairs fault → FirstBad stem ((name, value) :: pairs) fault := by
        rintro ⟨front, k, w, reason, rest, rfl, parse, hw⟩
        exact ⟨(name, value) :: front, k, w, reason, rest, rfl, parse_cons.mpr ⟨hp, parse⟩, hw⟩
      rw [putVariables] at h
      by_cases hn : ∃ k : Key, name = k.variableName stem
      · obtain ⟨k, rfl⟩ := hn
        rw [putVariable_variableName] at h
        cases hv : k.kind.ofVariable value with
        | error reason =>
          rw [hv] at h
          exact ⟨[], k, value, reason, pairs, rfl, parse_nil, hv, (Except.error.inj h).symm⟩
        | ok v =>
          rw [hv] at h
          exact behind (fun j hj => Key.variableName_injective hj ▸ ⟨v, hv⟩) (ih h)
      · have hne : ∀ k : Key, name ≠ k.variableName stem := fun k hk => hn ⟨k, hk⟩
        rw [putVariable_of_unnamed hne] at h
        exact behind (fun k hk => absurd hk (hne k)) (ih h)
  · rintro ⟨front, k, value, reason, rest, rfl, parse, hv, rfl⟩
    obtain ⟨t, ht⟩ := exists_putVariables (s := s) parse
    rw [putVariables_append, ht]
    show t.putVariables stem ((k.variableName stem, value) :: rest) = _
    rw [putVariables, putVariable_variableName, hv]

theorem exists_firstBad_iff : (∃ fault, FirstBad stem pairs fault) ↔
    ∃ p ∈ pairs, ∃ k : Key, p.1 = k.variableName stem ∧ ∃ reason, k.kind.ofVariable p.2 = .error reason := by
  constructor
  · rintro ⟨_, front, k, value, reason, rest, rfl, -, hv, -⟩
    exact ⟨_, List.mem_append_right front List.mem_cons_self, k, rfl, reason, hv⟩
  · rintro ⟨p, hp, k, hk, reason, hv⟩
    cases h : default.putVariables stem pairs with
    | error fault => exact ⟨fault, putVariables_eq_error_iff.mp h⟩
    | ok s =>
      obtain ⟨v, hok⟩ := (putVariables_eq_ok_iff.mp h).1 p hp k hk
      cases hok.symm.trans hv

/-- a variable of another name is as good as none -/
theorem putVariables_unnamed {p : String × String} (h : ∀ k : Key, p.1 ≠ k.variableName stem) :
    s.putVariables stem (front ++ p :: rest) = s.putVariables stem (front ++ rest) := by
  rw [putVariables_append, putVariables_append]
  refine congrArg _ (funext fun t => ?_)
  rw [putVariables, putVariable_of_unnamed h]

theorem putVariables_perm {pairs' : List (String × String)} (named : Variables.Named pairs) (h : pairs.Perm pairs') :
    s.putVariables stem pairs = .ok s' ↔ s.putVariables stem pairs' = .ok s' := by
  have named' : Variables.Named pairs' := (h.map Prod.fst).nodup_iff.mp named
  rw [putVariables_of_named named, putVariables_of_named named']
  refine forall_congr' fun k => ?_
  rw [Variables.find?_of_perm named h]

end

end Settings

namespace Loader
variable {l l' : Loader} {files : Files} {pairs : List (String × String)} {fault : ConfigFault}

theorem load_overrides_eq_ok_iff : l.load files (.overrides pairs) = .ok l' ↔
    ∃ s, l.settings.putVariables (l.stem.getD defaultStem) pairs = .ok s ∧ l' = { l with settings := s } := by
  show (l.settings.putVariables _ pairs).map _ = _ ↔ _
  cases l.settings.putVariables (l.stem.getD defaultStem) pairs with
  | error e => simp [Except.map]
  | ok s => simp [Except.map, eq_comm]

theorem load_overrides_eq_error_iff : l.load files (.overrides pairs) = .error fault ↔
    Settings.FirstBad (l.stem.getD defaultStem) pairs fault := by
  rw [← Settings.putVariables_eq_error_iff (s := l.settings)]
  show (l.settings.putVariables _ pairs).map _ = _ ↔ _
  cases l.settings.putVariables (l.stem.getD defaultStem) pairs with
  | error e => simp [Except.map]
  | ok s => simp [Except.map]

/-- **What a loader makes of variables, whatever it holds.**  It fails exactly if some variable of a setting has a value
that is not of its kind, and then the fault is that of the first one.  Else every setting is as its last variable says,
or as it was if it has none; variables of other names could as well be missing.  So where no name comes twice, the
variables lead to the same in every order. -/
theorem load_overrides (l : Loader) (files : Files) (pairs : List (String × String)) :
    let stem := l.stem.getD defaultStem
    ((∃ fault, l.load files (.overrides pairs) = .error fault) ↔
      ∃ p ∈ pairs, ∃ k : Key, p.1 = k.variableName stem ∧ ∃ reason, k.kind.ofVariable p.2 = .error reason) ∧
    (∀ fault, l.load files (.overrides pairs) = .error fault ↔ Settings.FirstBad stem pairs fault) ∧
    (∀ l', l.load files (.overrides pairs) = .ok l' ↔
      Settings.Parse stem pairs ∧ l' = { l with settings := l'.settings } ∧
        ∀ k : Key, k.Ends (l.settings.get k) (Variables.find? pairs.reverse (k.variableName stem))
          (l'.settings.get k)) ∧
    (∀ front p rest, pairs = front ++ p :: rest → (∀ k : Key, p.1 ≠ k.variableName stem) →
      l.load files (.overrides pairs) = l.load files (.overrides (front ++ rest))) ∧
    (Variables.Named pairs → ∀ pairs', pairs.Perm pairs' → ∀ l',
      l.load files (.overrides pairs) = .ok l' ↔ l.load files (.overrides pairs') = .ok l') := by
  intro stem
  refine ⟨?_, fun fault => load_overrides_eq_error_iff, fun l' => ?_, ?_, fun named pairs' h l' => ?_⟩
  · simp only [load_overrides_eq_error_iff]
    exact Settings.exists_firstBad_iff
  · simp only [load_overrides_eq_ok_iff, Settings.putVariables_eq_ok_iff]
    constructor
    · rintro ⟨s, ⟨parse, ends⟩, rfl⟩
      exact ⟨parse, rfl, ends⟩
    · rintro ⟨parse, same, ends⟩
      exact ⟨_, ⟨parse, ends⟩, same⟩
  · rintro front p rest rfl hp
    exact congrArg (Except.map fun s => { l with settings := s }) (Settings.putVariables_unnamed hp)
  · simp only [load_overrides_eq_ok_iff, Settings.putVariables_perm named h]

end Loader

end RequestPipeline
