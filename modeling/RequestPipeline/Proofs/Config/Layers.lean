import RequestPipeline.Proofs.Config.Assignments
import RequestPipeline.Proofs.Config.Documents

/-!
# Layers of a configuration

A document writes the settings of a loader, a file of variables its environment, and a stem is only chosen: what each
of them needs, the others leave as it is, so that they can be given in any order (`loadAll_perm`).  The variables are
written last of all, and so they stand above the document, whenever that was loaded.

* `Commutes`     two sources that can be exchanged;
* `Layered`      settings that each have the value of the first layer that has one: the variable of the process, that of
                 the file, the document, the default.

`layers_in_any_order`: **a document, a file of variables and a stem give the same settings in every order or fail in
every order; what they give is layered, setting by setting.**
-/

namespace RequestPipeline

/-- the assignments of the file of variables at a path, if there is one that can be read -/
def Files.assignments? (files : Files) (vs : Variables) (path : String) : Option Dotenv.Defined :=
  match files.find? path with
  | some (.file _ content) => (Utf8.toText? content).bind (Dotenv.assignments? vs)
  | _ => none

/-- the settings of a document in a format, whatever the case of its name -/
def Settings.inDocument (format document : String) : Except ConfigFault Settings :=
  Settings.ofDocument (Text.lower format) (Text.lower format) document

namespace Loader
variable {l l' : Loader} {files : Files}

/-! ## sources -/

theorem load_text_iff {format document : String} : l.load files (.text format document) = .ok l' ↔
    ∃ s, Settings.inDocument format document = .ok s ∧ l' = { l with settings := s } := by
  show (Settings.inDocument format document).map _ = _ ↔ _
  cases Settings.inDocument format document with
  | error e => simp [Except.map]
  | ok s => simp [Except.map, eq_comm]

theorem loadVariables_eq (l : Loader) (files : Files) (path : String) : l.loadVariables files path =
    match files.assignments? l.environment path with
    | some assigned => .ok { l with environment := l.environment.fill assigned }
    | none => .error .dotenv := by
  unfold loadVariables Files.assignments?
  cases files.find? path with
  | none => rfl
  | some entry =>
    cases entry with
    | directory => rfl
    | file name content =>
      dsimp only
      cases Utf8.toText? content with
      | none => rfl
      | some text =>
        rw [Option.bind_some, Option.bind_some, Dotenv.load?_eq]
        cases Dotenv.assignments? l.environment text <;> rfl

theorem load_dotenvFile_iff {path : String} : l.load files (.dotenvFile path) = .ok l' ↔
    ∃ assigned, files.assignments? l.environment path = some assigned ∧
      l' = { l with environment := l.environment.fill assigned } := by
  show l.loadVariables files path = .ok l' ↔ _
  rw [loadVariables_eq]
  cases files.assignments? l.environment path with
  | none => simp
  | some assigned => simp [eq_comm]

theorem load_stem_iff {name : String} : l.load files (.stem name) = .ok l' ↔
    l' = { l with stem := some (Text.upper name) } :=
  ⟨fun h => (Except.ok.inj h).symm, fun h => congrArg Except.ok h.symm⟩

theorem loadAll_nil_iff : l.loadAll files [] = .ok l' ↔ l = l' := Except.ok.injEq l l' ▸ Iff.rfl

theorem loadAll_cons_iff {source : ConfigSource} {rest : List ConfigSource} :
    l.loadAll files (source :: rest) = .ok l' ↔ ∃ m, l.load files source = .ok m ∧ m.loadAll files rest = .ok l' := by
  rw [loadAll]
  cases l.load files source with
  | error e => simp
  | ok m => simp

/-! ## order -/

/-- two sources that can be exchanged: they load, and to the same, in both orders or in neither -/
def Commutes (files : Files) (a b : ConfigSource) : Prop :=
  ∀ l l' : Loader, l.loadAll files [a, b] = .ok l' ↔ l.loadAll files [b, a] = .ok l'

theorem Commutes.symm {a b : ConfigSource} (h : Commutes files a b) : Commutes files b a := fun l l' => (h l l').symm

theorem loadAll_append_iff {front rest : List ConfigSource} : l.loadAll files (front ++ rest) = .ok l' ↔
    ∃ m, l.loadAll files front = .ok m ∧ m.loadAll files rest = .ok l' := by
  induction front generalizing l with
  | nil => exact ⟨fun h => ⟨l, rfl, h⟩, fun ⟨m, hm, h⟩ => Except.ok.inj hm ▸ h⟩
  | cons source front ih =>
    simp only [List.cons_append, loadAll_cons_iff, ih]
    constructor
    · rintro ⟨m, hm, n, hn, h⟩
      exact ⟨n, ⟨m, hm, hn⟩, h⟩
    · rintro ⟨n, ⟨m, hm, hn⟩, h⟩
      exact ⟨m, hm, n, hn, h⟩

/-- **Sources that commute load to the same in every order.** -/
theorem loadAll_perm {sources sources' : List ConfigSource} (h : sources.Perm sources')
    (commute : sources.Pairwise (Commutes files)) :
    l.loadAll files sources = .ok l' ↔ l.loadAll files sources' = .ok l' := by
  induction h generalizing l with
  | nil => exact Iff.rfl
  | cons source _ ih =>
    simp only [loadAll_cons_iff, ih (List.pairwise_cons.mp commute).2]
  | swap a b rest =>
    have hab : Commutes files b a := (List.pairwise_cons.mp commute).1 a List.mem_cons_self
    rw [show b :: a :: rest = [b, a] ++ rest from rfl, show a :: b :: rest = [a, b] ++ rest from rfl,
      loadAll_append_iff, loadAll_append_iff]
    exact exists_congr fun m => and_congr_left fun _ => hab l m
  | trans h₁ _ ih₁ ih₂ =>
    exact (ih₁ commute).trans (ih₂ ((h₁.pairwise_iff Commutes.symm).mp commute))

theorem loadAll_pair_iff {a b : ConfigSource} :
    l.loadAll files [a, b] = .ok l' ↔ ∃ m, l.load files a = .ok m ∧ m.load files b = .ok l' := by
  simp only [loadAll_cons_iff, loadAll_nil_iff, exists_eq_right]

/-- a document needs no variables, and a file of variables no settings -/
theorem dotenvFile_commutes_text (path format document : String) :
    Commutes files (.dotenvFile path) (.text format document) := by
  intro l l'
  simp only [loadAll_pair_iff, load_text_iff, load_dotenvFile_iff]
  constructor
  · rintro ⟨_, ⟨assigned, ha, rfl⟩, s, hs, rfl⟩
    exact ⟨_, ⟨s, hs, rfl⟩, assigned, ha, rfl⟩
  · rintro ⟨_, ⟨s, hs, rfl⟩, assigned, ha, rfl⟩
    exact ⟨_, ⟨assigned, ha, rfl⟩, s, hs, rfl⟩

theorem dotenvFile_commutes_stem (path name : String) : Commutes files (.dotenvFile path) (.stem name) := by
  intro l l'
  simp only [loadAll_pair_iff, load_stem_iff, load_dotenvFile_iff]
  constructor
  · rintro ⟨_, ⟨assigned, ha, rfl⟩, rfl⟩
    exact ⟨_, rfl, assigned, ha, rfl⟩
  · rintro ⟨_, rfl, assigned, ha, rfl⟩
    exact ⟨_, ⟨assigned, ha, rfl⟩, rfl⟩

theorem text_commutes_stem (format document name : String) :
    Commutes files (.text format document) (.stem name) := by
  intro l l'
  simp only [loadAll_pair_iff, load_stem_iff, load_text_iff]
  constructor
  · rintro ⟨_, ⟨s, hs, rfl⟩, rfl⟩
    exact ⟨_, rfl, s, hs, rfl⟩
  · rintro ⟨_, rfl, s, hs, rfl⟩
    exact ⟨_, ⟨s, hs, rfl⟩, rfl⟩

end Loader

/-! ## layers -/

/-- what comes of sources in a process: the settings with the variables written over them, or what fails -/
def loadSettings (environment : Variables) (files : Files) (sources : List ConfigSource) :
    Except ConfigFault Settings :=
  match (Loader.start environment).loadAll files sources with
  | .ok l => l.finish
  | .error fault => .error fault

/-- Every setting has the value of its variable, which is one of the process if there is one, else the first one that
the file assigns; else the value that the document gives it; else its default. -/
def Settings.Layered (environment : Variables) (assigned : Dotenv.Defined) (format document stem : String)
    (s : Settings) : Prop :=
  ∀ k : Key, k.Ends ((k.given? (Text.lower format) document).getD (Settings.default.get k))
    ((environment.find? (k.variableName stem)).or (Variables.find? assigned (k.variableName stem))) (s.get k)

section
variable {environment : Variables} {files : Files} {path format document name : String} {s : Settings}

theorem loadSettings_eq_ok_iff {sources : List ConfigSource} : loadSettings environment files sources = .ok s ↔
    ∃ l, (Loader.start environment).loadAll files sources = .ok l ∧ l.finish = .ok s := by
  unfold loadSettings
  cases (Loader.start environment).loadAll files sources with
  | error fault => simp
  | ok l => simp

/-- in the order in which nothing is written twice -/
theorem loadSettings_iff_layered (named : environment.Named) :
    loadSettings environment files [.dotenvFile path, .text format document, .stem name] = .ok s ↔
      ∃ assigned, files.assignments? environment path = some assigned ∧
        (∃ base, Settings.inDocument format document = .ok base) ∧
        s.Layered environment assigned format document (Text.upper name) := by
  have written : ∀ {assigned base}, Settings.inDocument format document = .ok base →
      (base.putVariables (Text.upper name) (environment.fill assigned) = .ok s ↔
        s.Layered environment assigned format document (Text.upper name)) := by
    intro assigned base hb
    rw [Settings.putVariables_of_named (named.fill assigned)]
    refine forall_congr' fun k => ?_
    rw [Variables.find?_fill, Settings.get_ofDocument hb k]
  simp only [loadSettings_eq_ok_iff, Loader.loadAll_cons_iff, Loader.loadAll_nil_iff, Loader.load_dotenvFile_iff,
    Loader.load_text_iff, Loader.load_stem_iff]
  constructor
  · rintro ⟨_, ⟨_, ⟨assigned, ha, rfl⟩, _, ⟨base, hb, rfl⟩, _, rfl, rfl⟩, h⟩
    exact ⟨assigned, ha, ⟨base, hb⟩, (written hb).mp h⟩
  · rintro ⟨assigned, ha, ⟨base, hb⟩, h⟩
    exact ⟨_, ⟨_, ⟨assigned, ha, rfl⟩, _, ⟨base, hb, rfl⟩, _, rfl, rfl⟩, (written hb).mpr h⟩

/-- **The three layers of a configuration, in any order.**  A document, a file of variables and a stem, each given once
to a new loader, fail in every order or give the same settings in every order.  They give settings exactly if the file
and the document can be read and every variable that counts has a value of the kind of its setting; and then each
setting, whatever the others, is that of its variable in the process, else in the file, else that of the document, else
its default. -/
theorem layers_in_any_order (environment : Variables) (named : environment.Named) (files : Files)
    (path format document name : String) :
    let sources : List ConfigSource := [.dotenvFile path, .text format document, .stem name]
    ((∀ order, order.Perm sources → ∃ fault, loadSettings environment files order = .error fault) ∨
      ∃ s, ∀ order, order.Perm sources → loadSettings environment files order = .ok s) ∧
    ∀ order, order.Perm sources → ∀ s, loadSettings environment files order = .ok s ↔
      ∃ assigned, files.assignments? environment path = some assigned ∧
        (∃ base, Settings.inDocument format document = .ok base) ∧
        s.Layered environment assigned format document (Text.upper name) := by
  intro sources
  have commute : sources.Pairwise (Loader.Commutes files) := by
    refine .cons ?_ (.cons ?_ (.cons nofun .nil))
    · rintro b (_ | ⟨_, _ | ⟨_, h⟩⟩)
      · exact Loader.dotenvFile_commutes_text path format document
      · exact Loader.dotenvFile_commutes_stem path name
      · cases h
    · rintro b (_ | ⟨_, h⟩)
      · exact Loader.text_commutes_stem format document name
      · cases h
  -- every order leads to the loader that one of them leads to
  have same : ∀ {order}, order.Perm sources → ∀ s,
      loadSettings environment files order = .ok s ↔ loadSettings environment files sources = .ok s := by
    intro order h s
    have pairwise := (h.pairwise_iff Loader.Commutes.symm).mpr commute
    rw [loadSettings_eq_ok_iff, loadSettings_eq_ok_iff]
    exact exists_congr fun l => and_congr_left fun _ => Loader.loadAll_perm h pairwise
  refine ⟨?_, fun order h s => (same h s).trans (loadSettings_iff_layered named)⟩
  cases hs : loadSettings environment files sources with
  | ok s => exact .inr ⟨s, fun order h => (same h s).mpr hs⟩
  | error fault =>
    refine .inl fun order h => ?_
    cases ho : loadSettings environment files order with
    | error fault => exact ⟨fault, rfl⟩
    | ok s => cases hs.symm.trans ((same h s).mp ho)

/-- a setting for every layer: one of the process that the file assigns too, one of the file that the document gives
too, one of the document, and one of none -/
theorem layers_in_any_order_app :
    let environment : Variables := [("HOME", "/"), ("APP__SERVER__HTTP_ADDR", "process")]
    let files : Files := [("app.env", Utf8.ofText "APP__SERVER__HTTP_ADDR=file\nAPP__LOGGING__LEVEL=file\n")]
    let document := "[server]\nhttp_addr = \"text\"\nmax_body_bytes = 5\n[logging]\nlevel = \"text\"\n"
    environment.Named ∧ ∃ s,
      (∀ order, order.Perm [.dotenvFile "app.env", .text "TOML" document, .stem "app"] →
        loadSettings environment files order = .ok s) ∧
      s.get .address = .text "process" ∧ s.get .logLevel = .text "file" ∧ s.get .maxBody = .count 5 ∧
      s.get .requestTimeout = .count 30 := by
  intro environment files document
  have named : environment.Named := by
    unfold Variables.Named
    decide
  have loaded : (loadSettings environment files
      [.dotenvFile "app.env", .text "TOML" document, .stem "app"]).toOption.map
        (fun s => (s.get .address, s.get .logLevel, s.get .maxBody, s.get .requestTimeout)) =
      some (.text "process", .text "file", .count 5, .count 30) := by decide +kernel
  refine ⟨named, ?_⟩
  rcases (layers_in_any_order environment named files "app.env" "TOML" document "app").1 with h | ⟨s, h⟩
  · obtain ⟨fault, hf⟩ := h _ (List.Perm.refl _)
    rw [hf] at loaded
    cases loaded
  · rw [h _ (List.Perm.refl _)] at loaded
    simp only [Except.toOption, Option.map_some, Option.some.injEq, Prod.mk.injEq] at loaded
    exact ⟨s, h, loaded⟩

end

end RequestPipeline
