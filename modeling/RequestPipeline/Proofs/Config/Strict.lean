import RequestPipeline.Proofs.Config.Layers
import RequestPipeline.Proofs.Json.Written

/-!
# What a JSON document must be to be settings

Settings are read from a record of sections, each of which is a record of settings.  Both are taken from what is written:
only names that are known, none of them twice, and a value of the right kind under each of them; what is not written is
as by default.  An array in place of an object is taken too, and read in the order of the fields (`empty_list`).

* `written`            a JSON document, with the members of it and of its sections as they are written;
* `ofBytes_written`    read plainly, it is the JSON value of the document;
* `Settings.Stated`    the settings that such a document states.

`load_json_iff`: **a document is loaded exactly if it states settings, and as these, whatever the loader held.**
-/

namespace RequestPipeline

open Json (Value Members Reader asWritten readValue forward_readValue forward_asWritten)
open Json.Reader (Passed RecordRead ReadAs)

/-! ## documents as they are written -/

namespace Json

/-- a document, with the members of its object, and of the objects in it, as they are written -/
def written (document : Bytes) : Except Fault Value :=
  finish (asWritten (asWritten readValue) (document.length + 1) maxDepth document)

theorem written_eq_ok_iff {document : Bytes} {w : Value} : written document = .ok w ↔
    ∃ rest, asWritten (asWritten readValue) (document.length + 1) maxDepth document = .ok (w, rest) ∧
      skipBlank rest = [] := finish_eq_ok_iff

theorem finish_map {α β : Type} (f : α → β) (r : Reading α) :
    finish (r.map fun x => (f x.1, x.2)) = (finish r).map f := by
  cases r with
  | error e => rfl
  | ok x =>
    unfold finish Except.map
    dsimp only
    cases skipBlank x.2 <;> rfl

/-- read plainly, what is written is the value of the document -/
theorem ofBytes_written (document : Bytes) :
    Value.ofBytes document = (written document).map (Value.merged (Value.merged id)) := by
  have sections (size depth : Nat) : ∀ input, readValue size (depth + 1) input =
      (asWritten readValue size (depth + 1) input).map fun r => (r.1.merged id, r.2) := by
    refine readValue_eq_asWritten fun input => ?_
    cases readValue size depth input <;> rfl
  unfold written
  rw [← finish_map]
  exact congrArg finish (readValue_eq_asWritten (sections _ _) document)

end Json

/-! ## the settings that are stated -/

/-- the value that is written for a setting -/
def Key.written? (k : Key) (document : Value) : Option Value :=
  ((document.stated Section.names).get? k.home.name).bind fun sec => (sec.stated k.home.keyNames).get? k.name

/-- how a setting comes out: as the value that is written for it says, or as by default -/
inductive Key.Read (k : Key) : Option Value → Setting → Prop
  | given {w : Value} {v : Setting} : k.kind.ofJson? w = some v → k.Read (some w) v
  | default : k.Read none (Settings.default.get k)

/-- The settings that a document states: it is a record of sections, those are records of settings, and every setting
has the value that is written for it or else its default. -/
structure Settings.Stated (document : Value) (s : Settings) : Prop where
  record : document.IsRecord Section.names
  sections : ∀ {sec : Section} {w : Value}, (document.stated Section.names).get? sec.name = some w →
    w.IsRecord sec.keyNames
  settings : ∀ k : Key, k.Read (k.written? document) (s.get k)

theorem Key.Read.unique {k : Key} {w : Option Value} {v v' : Setting} (h : k.Read w v) (h' : k.Read w v') : v = v' := by
  cases h with
  | given hv =>
    cases h' with
    | given hv' => exact Option.some.inj (hv.symm.trans hv')
  | default =>
    cases h' with
    | default => rfl

theorem Settings.Stated.unique {document : Value} {s s' : Settings} (h : s.Stated document) (h' : s'.Stated document) :
    s = s' := ext_get fun k => (h.settings k).unique (h'.settings k)

/-! ## how they are read -/

namespace SettingKind

theorem exists_items {ws : List Value} {ns : List Float64} (h : ws.mapM Json.Value.float? = some ns) :
    ∃ vs, Reader.itemsOfValues .float ws = .ok vs := by
  induction ws generalizing ns with
  | nil => exact ⟨[], rfl⟩
  | cons w ws ih =>
    rw [List.mapM_cons] at h
    obtain ⟨x, hx, h⟩ := Option.bind_eq_some_iff.mp h
    obtain ⟨xs, hxs, -⟩ := Option.bind_eq_some_iff.mp h
    obtain ⟨vs, hvs⟩ := ih hxs
    cases w with
    | number n =>
      obtain ⟨f, hf, -⟩ := Option.map_eq_some_iff.mp hx
      have hw : Reader.float.fromValue (.number n) = .ok (.number (.float f)) := by
        unfold Reader.float Reader.number
        dsimp only
        rw [hf]
      exact ⟨_, Json.bind_eq_ok_iff.mpr ⟨_, hw, Json.map_eq_ok_iff.mpr ⟨vs, hvs, rfl⟩⟩⟩
    | _ => cases hx

theorem exists_integer {expected : String} {w : Value} {n : Nat} (h : w.uint64? = some n) :
    ∃ v, (Reader.integer expected 0 Text.maxUInt64).fromValue w = .ok v := by
  cases w with
  | number m =>
    cases m with
    | int i =>
      by_cases hi : 0 ≤ i ∧ i ≤ Text.maxUInt64
      · exact ⟨_, if_pos hi⟩
      · cases (if_neg hi).symm.trans h
    | float f => cases h
  | _ => cases h

theorem exists_fromValue {kind : SettingKind} {w : Value} {x : Setting} (h : kind.ofJson? w = some x) :
    ∃ v, kind.reader.fromValue w = .ok v := by
  cases kind with
  | text =>
    cases w with
    | string s => exact ⟨_, rfl⟩
    | _ => cases h
  | flag =>
    cases w with
    | bool b => exact ⟨_, rfl⟩
    | _ => cases h
  | seconds =>
    obtain ⟨n, hn, -⟩ := Option.map_eq_some_iff.mp h
    exact exists_integer hn
  | size =>
    obtain ⟨n, hn, -⟩ := Option.map_eq_some_iff.mp h
    exact exists_integer hn
  | numbers =>
    obtain ⟨ns, hns, -⟩ := Option.map_eq_some_iff.mp h
    obtain ⟨ws, hw, hns⟩ := Option.bind_eq_some_iff.mp hns
    cases w with
    | array items =>
      cases hw
      obtain ⟨vs, hvs⟩ := exists_items hns
      exact ⟨_, Json.map_eq_ok_iff.mpr ⟨vs, hvs, rfl⟩⟩
    | _ => cases hw

end SettingKind

namespace Section

def ReadFrom (sec : Section) : Value → Value → Prop :=
  RecordRead sec.keyNames fun name w v => ∃ k : Key, k.home = sec ∧ k.name = name ∧ k.kind.reader.fromValue w = .ok v

theorem reads_section (sec : Section) : sec.reader.Reads (asWritten readValue) sec.ReadFrom := by
  have names : ((Key.ofSection sec).map fun k => (⟨k.name, k.kind.reader, false⟩ : Json.Field)).map Json.Field.name =
      sec.keyNames := List.map_map
  unfold ReadFrom
  rw [← names]
  refine Reader.reads_record forward_readValue ?_ ?_
  · intro f hf
    obtain ⟨j, hj, rfl⟩ := List.mem_map.mp hf
    refine (SettingKind.faithful_reader j.kind).reads.congr fun {w v} => ⟨fun h => ?_, ?_⟩
    · exact ⟨j, Key.mem_ofSection.mp hj, rfl, h⟩
    · rintro ⟨k, hk, hn, h⟩
      -- a name stands for one setting of a section
      obtain rfl := Key.name_injective (hk.trans (Key.mem_ofSection.mp hj).symm) hn
      exact h
  · intro f hf
    obtain ⟨j, -, rfl⟩ := List.mem_map.mp hf
    rfl

end Section

namespace Settings

def ReadFrom : Value → Value → Prop :=
  RecordRead Section.names fun name w v => ∃ sec : Section, sec.name = name ∧ sec.ReadFrom w v

theorem reads_settings : reader.Reads (asWritten (asWritten readValue)) ReadFrom := by
  refine Reader.reads_record (forward_asWritten forward_readValue) ?_ ?_
  · intro f hf
    obtain ⟨sec, -, rfl⟩ := List.mem_map.mp hf
    refine sec.reads_section.congr fun {w v} => ⟨fun h => ⟨sec, rfl, h⟩, ?_⟩
    rintro ⟨sec', hn, h⟩
    obtain rfl := Section.name_injective hn
    exact h
  · intro f hf
    obtain ⟨sec, -, rfl⟩ := List.mem_map.mp hf
    rfl

/-! ## what is read and what is stated -/

variable {w record : Value} {s : Settings}

/-- what is read of a section gives each of its settings as it is written -/
theorem read_of_section {k : Key} {sec v : Value} (h : k.home.ReadFrom sec v) :
    k.Read ((sec.stated k.home.keyNames).get? k.name) (((v.get? k.name).bind k.kind.ofValue?).getD (default.get k)) := by
  obtain ⟨hrecord, taken, htaken, rfl⟩ := h
  have passed := Reader.passed_of_taken htaken (hrecord.nodup k.home.nodup_keyNames) k.name
  show k.Read _ ((((Members.ofList taken).get? k.name).bind k.kind.ofValue?).getD _)
  cases hw : (sec.stated k.home.keyNames).get? k.name with
  | none =>
    rw [hw] at passed
    rw [passed.of_none]
    exact .default
  | some x =>
    rw [hw] at passed
    obtain ⟨v, hv, j, hj, hn, hread⟩ := passed.of_some
    obtain rfl := Key.name_injective hj hn
    obtain ⟨y, hy, hvy⟩ := SettingKind.ofValue?_of_fromValue hread
    rw [hv, Option.bind_some, hvy]
    exact .given hy

theorem stated_of_readFrom (h : ReadFrom w record) : (ofRecord record).Stated w := by
  obtain ⟨hrecord, taken, htaken, rfl⟩ := h
  have passed := Reader.passed_of_taken htaken (hrecord.nodup Section.nodup_names)
  have section_of {sec : Section} {o : Value} (ho : (w.stated Section.names).get? sec.name = some o) :
      ∃ v, (Members.ofList taken).get? sec.name = some v ∧ sec.ReadFrom o v := by
    have hp := passed sec.name
    rw [ho] at hp
    obtain ⟨v, hv, sec', hn, hread⟩ := hp.of_some
    obtain rfl := Section.name_injective hn
    exact ⟨v, hv, hread⟩
  refine ⟨hrecord, fun ho => ?_, fun k => ?_⟩
  · obtain ⟨v, -, hread⟩ := section_of ho
    exact hread.1
  · rw [get_ofRecord]
    show k.Read _ (((((Members.ofList taken).get? k.home.name).bind (·.get? k.name)).bind k.kind.ofValue?).getD _)
    unfold Key.written?
    cases ho : (w.stated Section.names).get? k.home.name with
    | none =>
      have hp := passed k.home.name
      rw [ho] at hp
      rw [hp.of_none]
      exact .default
    | some o =>
      obtain ⟨v, hv, hread⟩ := section_of ho
      rw [hv]
      exact read_of_section hread

theorem exists_readFrom (h : s.Stated w) : ∃ record, ReadFrom w record := by
  have nodup := h.record.nodup Section.nodup_names
  refine Reader.exists_recordRead h.record fun e he => ?_
  obtain ⟨sec, -, hn⟩ := List.mem_map.mp (h.record.known he)
  have ho : (w.stated Section.names).get? sec.name = some e.2 := by
    rw [hn]
    exact Members.get?_of_mem_of_nodup nodup he
  have hsec := h.sections ho
  -- what is written for a section can be read if what is written for its settings can
  suffices read : ∃ v, sec.ReadFrom e.2 v by
    obtain ⟨v, hv⟩ := read
    exact ⟨v, sec, hn, hv⟩
  refine Reader.exists_recordRead hsec fun m hm => ?_
  obtain ⟨k, hk, hkn⟩ := List.mem_map.mp (hsec.known hm)
  have home : k.home = sec := Key.mem_ofSection.mp hk
  subst home
  have hw : k.written? w = some m.2 := by
    unfold Key.written?
    rw [ho, Option.bind_some, hkn]
    exact Members.get?_of_mem_of_nodup (hsec.nodup k.home.nodup_keyNames) hm
  have hread := h.settings k
  rw [hw] at hread
  cases hread with
  | given hx =>
    obtain ⟨v, hv⟩ := SettingKind.exists_fromValue hx
    exact ⟨v, k, rfl, hkn, hv⟩

/-- **A JSON document is read as settings exactly if it states them.** -/
theorem ofJson_eq_ok_iff {document : String} :
    ofJson document = .ok s ↔ ∃ w, Json.written (Utf8.ofText document) = .ok w ∧ s.Stated w := by
  have parsed {record} : reader.parse (Utf8.ofText document) = .ok record ↔
      ∃ w, Json.written (Utf8.ofText document) = .ok w ∧ ReadFrom w record := by
    simp only [Reader.parse_eq_ok_iff, Json.written_eq_ok_iff, reads_settings (Nat.lt_succ_self _)]
    constructor
    · rintro ⟨rest, ⟨w, hw, hread⟩, hs⟩
      exact ⟨w, ⟨rest, hw, hs⟩, hread⟩
    · rintro ⟨w, ⟨rest, hw, hs⟩, hread⟩
      exact ⟨rest, ⟨w, hw, hread⟩, hs⟩
  constructor
  · intro h
    unfold ofJson at h
    split at h
    · rename_i record hr
      cases h
      obtain ⟨w, hw, hread⟩ := parsed.mp hr
      exact ⟨w, hw, stated_of_readFrom hread⟩
    · cases h
  · rintro ⟨w, hw, hs⟩
    obtain ⟨record, hread⟩ := exists_readFrom hs
    unfold ofJson
    rw [parsed.mpr ⟨w, hw, hread⟩]
    -- what is read is stated too, and a document states one set of settings
    exact congrArg Except.ok ((stated_of_readFrom hread).unique hs)

end Settings

namespace Loader

/-- **A loader takes a JSON document exactly if the document states settings, and then holds these, whatever it held
before; every other text is refused as JSON.** -/
theorem load_json_iff (l : Loader) (files : Files) (text : String) :
    (∀ l', l.load files (.text "json" text) = .ok l' ↔
      ∃ w, Json.written (Utf8.ofText text) = .ok w ∧ l'.settings.Stated w ∧ l' = { l with settings := l'.settings }) ∧
    ((∃ l', l.load files (.text "json" text) = .ok l') ∨
      ∃ reason, l.load files (.text "json" text) = .error (.json reason)) := by
  have loads : l.load files (.text "json" text) = (Settings.ofJson text).map fun s => { l with settings := s } := rfl
  constructor
  · intro l'
    rw [load_text_iff]
    show (∃ s, Settings.ofJson text = .ok s ∧ _) ↔ _
    simp only [Settings.ofJson_eq_ok_iff]
    constructor
    · rintro ⟨s, ⟨w, hw, hs⟩, rfl⟩
      exact ⟨w, hw, hs, rfl⟩
    · rintro ⟨w, hw, hs, hl⟩
      exact ⟨_, ⟨w, hw, hs⟩, hl⟩
  · rw [loads]
    unfold Settings.ofJson
    cases Settings.reader.parse (Utf8.ofText text) with
    | error reason => exact .inr ⟨reason, rfl⟩
    | ok record => exact .inl ⟨_, rfl⟩

/-- an array, which is no object of sections, is taken as the default settings -/
theorem empty_list : (start []).load [] (.text "json" "[]") = .ok (start []) ∧
    ¬ ∃ ms, Value.ofBytes (Utf8.ofText "[]") = .ok (.object ms) := by
  constructor
  · rfl
  · rintro ⟨ms, h⟩
    cases h

end Loader

end RequestPipeline
