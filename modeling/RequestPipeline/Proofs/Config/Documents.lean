import RequestPipeline.Proofs.Config.Overrides
import RequestPipeline.Proofs.Json.Typed
import RequestPipeline.Proofs.Toml.Tables

/-!
# What a document gives

A document gives settings section by section, in an object or a table, or in a list that holds them in their order.
`Key.given?` is the value that a document gives a setting, read off its plain value; the typed reading of the document
agrees with it.

* `exists_document`   the records that are read from a JSON document hold what it gives;
* `get_ofRecord`      a record is written over the defaults;
* `get_putTable`      so is a table.

`get_ofDocument`: **the settings of a document are what it gives, and the default elsewhere.**
-/

namespace RequestPipeline

open Json (Value Members Reader)
open Json.Reader (Passed)

/-! ## names -/

namespace Section

def names : List String := all.map name

def keyNames (sec : Section) : List String := (Key.ofSection sec).map Key.name

theorem mem_all (sec : Section) : sec ∈ all := by
  cases sec <;> decide

theorem nodup_names : names.Nodup := by decide

theorem nodup_keyNames (sec : Section) : sec.keyNames.Nodup := by
  cases sec <;> decide

theorem name_injective {sec sec' : Section} (h : sec.name = sec'.name) : sec = sec' := by
  have apart : ∀ sec ∈ all, ∀ sec' ∈ all, sec.name = sec'.name → sec = sec' := by decide
  exact apart sec (mem_all sec) sec' (mem_all sec') h

end Section

namespace Key

theorem mem_ofSection {k : Key} {sec : Section} : k ∈ ofSection sec ↔ k.home = sec := by
  unfold ofSection
  rw [List.mem_filter, and_iff_right (mem_all k), beq_iff_eq]

theorem nodup_ofSection (sec : Section) : (ofSection sec).Nodup := by
  cases sec <;> decide

theorem name_injective {j k : Key} (hs : j.home = k.home) (h : j.name = k.name) : j = k := by
  have apart : ∀ j ∈ all, ∀ k ∈ all, j.home = k.home → j.name = k.name → j = k := by decide
  exact apart j (mem_all j) k (mem_all k) hs h

theorem find?_name_iff {k : Key} {sec : Section} {name : String} :
    ((ofSection sec).find? fun k => k.name == name) = some k ↔ k.home = sec ∧ k.name = name := by
  have apart : ∀ j ∈ ofSection sec, ∀ k ∈ ofSection sec, j.name = k.name → j = k := fun j hj k hk =>
    name_injective ((mem_ofSection.mp hj).trans (mem_ofSection.mp hk).symm)
  exact (Keyed.find?_name_iff apart).trans (and_congr_left' mem_ofSection)

end Key

/-! ## JSON values -/

def Json.Value.uint64? : Value → Option Nat
  | .number (.int i) => if 0 ≤ i ∧ i ≤ Text.maxUInt64 then some i.toNat else none
  | _ => none

/-- a number, as a number of the settings -/
def Json.Value.float? : Value → Option Float64
  | .number n => n.toFloat?.map .finite
  | _ => none

def SettingKind.ofJson? : SettingKind → Value → Option Setting
  | .text, v => v.text?.map .text
  | .flag, v => v.bool?.map .flag
  | .seconds, v => v.uint64?.map .count
  | .size, v => v.uint64?.map .count
  | .numbers, v => (v.items?.bind fun vs => vs.mapM Json.Value.float?).map .numbers

namespace SettingKind

theorem fits_of_ofValue? {kind : SettingKind} {w : Value} {v : Setting} (h : kind.ofValue? w = some v) :
    v.fits kind = true := by
  cases kind <;> obtain ⟨x, -, rfl⟩ := Option.map_eq_some_iff.mp h <;> rfl

/-- a count is read as the number that it is -/
theorem ofValue?_of_integer {expected : String} {w v : Value}
    (h : (Reader.integer expected 0 Text.maxUInt64).fromValue w = .ok v) :
    ∃ n, w.uint64? = some n ∧ v.nat? = some n := by
  cases w with
  | number n =>
    cases n with
    | int i =>
      by_cases hi : 0 ≤ i ∧ i ≤ Text.maxUInt64
      · obtain ⟨n, rfl⟩ := Int.eq_ofNat_of_zero_le hi.1
        have hv : (Reader.integer expected 0 Text.maxUInt64).fromValue (.ofNat n) = .ok (.ofNat n) :=
          Reader.fromValue_integer expected hi
        cases hv.symm.trans h
        exact ⟨n, if_pos hi, rfl⟩
      · have hv : (Reader.integer expected 0 Text.maxUInt64).fromValue (.number (.int i)) =
            Json.mismatch (.range (.number (.int i)) expected) := if_neg hi
        cases hv.symm.trans h
    | float f => cases h
  | _ => cases h

/-- a number is read as the one nearest to it -/
theorem float?_of_float {w v : Value} (h : Reader.float.fromValue w = .ok v) :
    ∃ f, w.float? = some (.finite f) ∧ v = .number (.float f) := by
  cases w with
  | number n =>
    unfold Reader.float Reader.number at h
    dsimp only at h
    split at h
    · rename_i f hf
      cases h
      exact ⟨f, congrArg (Option.map Float64.finite) hf, rfl⟩
    · cases h
  | _ => cases h

theorem float?_of_itemsOfValues {ws vs : List Value} (h : Reader.itemsOfValues .float ws = .ok vs) :
    ∃ fs, ws.mapM Json.Value.float? = some fs ∧ ofValue? .numbers (.array vs) = some (.numbers fs) := by
  induction ws generalizing vs with
  | nil =>
    cases h
    exact ⟨[], rfl, rfl⟩
  | cons w ws ih =>
    obtain ⟨x, hx, h⟩ := Json.bind_eq_ok_iff.mp h
    obtain ⟨xs, hxs, rfl⟩ := Json.map_eq_ok_iff.mp h
    obtain ⟨f, hf, rfl⟩ := float?_of_float hx
    obtain ⟨fs, hfs, hread⟩ := ih hxs
    refine ⟨.finite f :: fs, ?_, ?_⟩
    · rw [List.mapM_cons, hf, hfs]
      rfl
    · cases hread
      rfl

/-- what is read of a value is the setting that it gives -/
theorem ofValue?_of_fromValue {kind : SettingKind} {w v : Value} (h : kind.reader.fromValue w = .ok v) :
    ∃ x, kind.ofJson? w = some x ∧ kind.ofValue? v = some x := by
  cases kind with
  | text =>
    obtain ⟨s, rfl, rfl⟩ := Reader.fromValue_text_iff.mp h
    exact ⟨.text s, rfl, rfl⟩
  | flag =>
    obtain ⟨b, rfl, rfl⟩ := Reader.fromValue_flag_iff.mp h
    exact ⟨.flag b, rfl, rfl⟩
  | seconds =>
    obtain ⟨n, hw, hv⟩ := ofValue?_of_integer h
    exact ⟨.count n, congrArg (Option.map Setting.count) hw, congrArg (Option.map Setting.count) hv⟩
  | size =>
    obtain ⟨n, hw, hv⟩ := ofValue?_of_integer h
    exact ⟨.count n, congrArg (Option.map Setting.count) hw, congrArg (Option.map Setting.count) hv⟩
  | numbers =>
    cases w with
    | array ws =>
      obtain ⟨vs, hvs, rfl⟩ := Json.map_eq_ok_iff.mp h
      obtain ⟨fs, hfs, hread⟩ := float?_of_itemsOfValues hvs
      exact ⟨.numbers fs, congrArg (Option.map Setting.numbers) hfs, hread⟩
    | _ => cases h

theorem faithful_reader (kind : SettingKind) : kind.reader.Faithful := by
  cases kind with
  | text => exact Reader.faithful_text
  | flag => exact Reader.faithful_flag
  | seconds => exact Reader.faithful_integer _ _ _
  | size => exact Reader.faithful_integer _ _ _
  | numbers => exact Reader.faithful_list (Reader.faithful_number _ _)

end SettingKind

/-! ## JSON documents -/

namespace Key

/-- the value that a section gives a setting -/
def inSection? (k : Key) (sec : Value) : Option Setting :=
  ((sec.stated k.home.keyNames).get? k.name).bind k.kind.ofJson?

/-- the value that a JSON document gives a setting -/
def inJson? (k : Key) (document : Value) : Option Setting :=
  ((document.stated Section.names).get? k.home.name).bind k.inSection?

end Key

/-- what is read of a section gives every setting of it the value that the section gives -/
def Section.Gives (sec : Section) (w v : Value) : Prop :=
  ∀ k : Key, k.home = sec → (v.get? k.name).bind k.kind.ofValue? = k.inSection? w

theorem passed_bind {R : Value → Value → Prop} {w v : Option Value} {f g : Value → Option Setting}
    (h : Passed R none w v) (agree : ∀ {w v}, R w v → g v = f w) : v.bind g = w.bind f := by
  cases h with
  | read hR => exact agree hR
  | left => rfl

theorem takes_section (sec : Section) : sec.reader.Takes sec.Gives := by
  have names : ((Key.ofSection sec).map fun k => (⟨k.name, k.kind.reader, false⟩ : Json.Field)).map Json.Field.name =
      sec.keyNames := List.map_map
  refine Reader.Takes.mono (Reader.takes_record (R := fun name w v =>
    ∀ k : Key, k.home = sec → k.name = name → k.kind.ofValue? v = k.kind.ofJson? w) ?_ ?_) ?_
  · rw [names]
    exact sec.nodup_keyNames
  · intro f hf
    obtain ⟨j, hj, rfl⟩ := List.mem_map.mp hf
    refine (SettingKind.faithful_reader j.kind).takes.mono fun h k hk hn => ?_
    -- a name stands for one setting of a section
    obtain rfl := Key.name_injective (hk.trans (Key.mem_ofSection.mp hj).symm) hn
    obtain ⟨x, hw, hv⟩ := SettingKind.ofValue?_of_fromValue h
    rw [hv, hw]
  · rintro w v ⟨ms, rfl, hpassed⟩ k hk
    rw [names] at hpassed
    subst hk
    exact passed_bind (hpassed k.name) fun h => h k rfl rfl

/-- **The records that are read from a JSON document give every setting the value that the document gives.** -/
theorem exists_document {document : Bytes} {record : Value} (h : Settings.reader.parse document = .ok record) :
    ∃ w, Value.ofBytes document = .ok w ∧
      ∀ k : Key, ((record.get? k.home.name).bind (·.get? k.name)).bind k.kind.ofValue? = k.inJson? w := by
  have names : (Section.all.map fun sec => (⟨sec.name, sec.reader, false⟩ : Json.Field)).map Json.Field.name =
      Section.names := List.map_map
  have takes : Settings.reader.Takes _ := Reader.takes_record
    (R := fun name w v => ∀ sec : Section, sec.name = name → sec.Gives w v) ?_ ?_
  · obtain ⟨rest, hr, hs⟩ := Reader.parse_eq_ok_iff.mp h
    obtain ⟨w, hw, ms, rfl, hpassed⟩ := takes (Nat.lt_succ_self _) hr
    rw [names] at hpassed
    refine ⟨w, Json.finish_eq_ok_iff.mpr ⟨rest, hw, hs⟩, fun k => ?_⟩
    rw [Option.bind_assoc]
    exact passed_bind (hpassed k.home.name) fun gives => gives k.home rfl k rfl
  · rw [names]
    exact Section.nodup_names
  · intro f hf
    obtain ⟨sec, -, rfl⟩ := List.mem_map.mp hf
    refine (takes_section sec).mono fun gives sec' hn => ?_
    obtain rfl := Section.name_injective hn
    exact gives

/-! ## writing records -/

namespace Settings

/-- steps that each write the settings of one part write those of all parts -/
theorem get_foldl {ι : Type} [DecidableEq ι] {step : Settings → ι → Settings} (part : Key → ι)
    (value : Key → Option Setting)
    (writes : ∀ s i k, (step s i).get k = if part k = i then (value k).getD (s.get k) else s.get k) {is : List ι}
    (nodup : is.Nodup) (s : Settings) (k : Key) :
    (is.foldl step s).get k = if part k ∈ is then (value k).getD (s.get k) else s.get k := by
  induction is generalizing s with
  | nil => rfl
  | cons i is ih =>
    obtain ⟨hi, his⟩ := List.nodup_cons.mp nodup
    rw [List.foldl_cons, ih his, writes]
    by_cases h : part k = i
    · subst h
      rw [if_neg hi, if_pos rfl, if_pos List.mem_cons_self]
    · rw [if_neg h]
      simp only [List.mem_cons, h, false_or]

theorem get_putSection (s : Settings) (sec : Section) (record : Value) (k : Key) :
    (s.putSection sec record).get k =
      if k.home = sec then ((record.get? k.name).bind k.kind.ofValue?).getD (s.get k) else s.get k := by
  refine (get_foldl id (fun k => (record.get? k.name).bind k.kind.ofValue?) ?_
    (Key.nodup_ofSection sec) s k).trans ?_
  · intro s j k
    cases hf : (record.get? j.name).bind j.kind.ofValue? with
    | none =>
      by_cases h : k = j
      · rw [h, if_pos (id_eq j), hf]
        rfl
      · exact (if_neg h).symm
    | some v =>
      obtain ⟨w, -, hw⟩ := Option.bind_eq_some_iff.mp hf
      by_cases h : k = j
      · rw [h, if_pos (id_eq j), hf]
        exact get_put_self (SettingKind.fits_of_ofValue? hw) s
      · exact (get_put_of_ne h v s).trans (if_neg h).symm
  · simp only [id_eq, Key.mem_ofSection]

/-- a record is written over the defaults -/
theorem get_ofRecord (record : Value) (k : Key) :
    (ofRecord record).get k =
      (((record.get? k.home.name).bind (·.get? k.name)).bind k.kind.ofValue?).getD (default.get k) := by
  have nodup : Section.all.Nodup := by decide
  refine (get_foldl Key.home
    (fun k => ((record.get? k.home.name).bind (·.get? k.name)).bind k.kind.ofValue?) ?_ nodup default k).trans
    (if_pos (Section.mem_all k.home))
  intro s sec k
  cases hr : record.get? sec.name with
  | none =>
    by_cases h : k.home = sec
    · rw [if_pos h, h, hr]
      rfl
    · exact (if_neg h).symm
  | some r =>
    refine (get_putSection s sec r k).trans ?_
    by_cases h : k.home = sec
    · rw [if_pos h, if_pos h, h, hr]
      rfl
    · rw [if_neg h, if_neg h]

end Settings

/-! ## TOML documents -/

/-- the value of a setting in a TOML document is of its kind -/
theorem SettingKind.fits_of_ofToml? {kind : SettingKind} {item : Toml.Item} {v : Setting}
    (h : kind.ofToml? item = some v) : v.fits kind = true := by
  unfold ofToml? at h
  split at h
  · cases h
    rfl
  · cases h
    rfl
  · split at h <;> cases h
    rfl
  · split at h <;> cases h
    rfl
  · obtain ⟨ns, -, rfl⟩ := Option.map_eq_some_iff.mp h
    rfl
  · cases h

/-- the entries that a section is stated with: those of a table, or the items of a list in the order of its settings -/
def Toml.Item.stated (names : List String) : Toml.Item → Toml.Table
  | .table _ t => t
  | .inlineTable t => t
  | .array items => names.zip items
  | .rows earlier last => names.zip ((earlier ++ [last]).map .inlineTable)
  | _ => []

namespace Key

/-- the value that a section of a TOML document gives a setting -/
def inItem? (k : Key) (sec : Toml.Item) : Option Setting :=
  ((sec.stated k.home.keyNames).find? k.name).bind k.kind.ofToml?

/-- the value that a TOML document gives a setting -/
def inToml? (k : Key) (document : Toml.Table) : Option Setting := (document.find? k.home.name).bind k.inItem?

end Key

namespace Settings
variable {s s' : Settings}

theorem putTable_cons (s : Settings) (sec : Section) (name : String) (item : Toml.Item) (t : Toml.Table) :
    s.putTable sec ((name, item) :: t) =
      ((Key.ofSection sec).find? fun k => k.name == name).bind fun k =>
        (k.kind.ofToml? item).bind fun v => (s.put k v).putTable sec t := by
  unfold putTable
  rw [List.foldlM_cons]
  dsimp only [Option.bind_eq_bind, Option.pure_def]
  rw [Option.bind_assoc]
  refine Option.bind_congr fun k _ => ?_
  rw [Option.bind_assoc]
  rfl

/-- a list of values is written as the table that names them -/
theorem putInOrder_eq (s : Settings) {sec : Section} {ks : List Key} (home : ∀ k ∈ ks, k.home = sec)
    (items : List Toml.Item) : s.putInOrder ks items = s.putTable sec ((ks.map Key.name).zip items) := by
  induction ks generalizing s items with
  | nil => rfl
  | cons k ks ih =>
    cases items with
    | nil => rfl
    | cons item items =>
      have found := Key.find?_name_iff.mpr ⟨home k List.mem_cons_self, rfl⟩
      rw [List.map_cons, List.zip_cons_cons, putTable_cons, found, Option.bind_some, putInOrder]
      exact Option.bind_congr fun v _ => ih (s.put k v) (fun j hj => home j (List.mem_cons_of_mem _ hj)) items

/-- a section is written as the table of what it states -/
theorem putItem_eq {sec : Section} {item : Toml.Item} (h : s.putItem sec item = some s') :
    s.putTable sec (item.stated sec.keyNames) = some s' := by
  have inOrder : ∀ items, s.putInOrder (Key.ofSection sec) items = s.putTable sec (sec.keyNames.zip items) :=
    s.putInOrder_eq fun k hk => Key.mem_ofSection.mp hk
  unfold putItem at h
  split at h
  · exact h
  · exact h
  · exact inOrder _ ▸ h
  · exact inOrder _ ▸ h
  · cases h

/-- steps that each write the settings of an entry write those of a table -/
theorem get_foldlM {step : Settings → String × Toml.Item → Option Settings} (part : Key → String)
    (value : Key → Toml.Item → Option Setting) {t : Toml.Table}
    (writes : ∀ e ∈ t, ∀ {s s'}, step s e = some s' →
      ∀ k, s'.get k = if part k = e.1 then (value k e.2).getD (s.get k) else s.get k)
    (nodup : (t.map Prod.fst).Nodup) (h : t.foldlM step s = some s') (k : Key) :
    s'.get k = ((t.find? (part k)).bind (value k)).getD (s.get k) := by
  induction t generalizing s with
  | nil =>
    cases h
    rfl
  | cons e t ih =>
    obtain ⟨he, ht⟩ := List.nodup_cons.mp nodup
    rw [List.foldlM_cons] at h
    obtain ⟨s₁, hs₁, hrest⟩ := Option.bind_eq_some_iff.mp h
    rw [ih (fun e' he' => writes e' (List.mem_cons_of_mem _ he')) ht hrest, writes e List.mem_cons_self hs₁,
      Toml.Table.find?_cons]
    by_cases hk : part k = e.1
    · have free : Toml.Table.find? t (part k) = none := Keyed.lookup_eq_none_iff.mpr (hk ▸ he)
      rw [if_pos hk, if_pos hk, free]
      rfl
    · rw [if_neg hk, if_neg hk]

theorem get_putTable {sec : Section} {t : Toml.Table} (nodup : (t.map Prod.fst).Nodup)
    (h : s.putTable sec t = some s') (k : Key) :
    s'.get k =
      ((t.find? k.name).bind fun item => if k.home = sec then k.kind.ofToml? item else none).getD (s.get k) := by
  refine get_foldlM Key.name (fun k item => if k.home = sec then k.kind.ofToml? item else none) ?_ nodup h k
  intro e _ s s' h k
  obtain ⟨j, hj, h⟩ := Option.bind_eq_some_iff.mp h
  obtain ⟨v, hv, h⟩ := Option.bind_eq_some_iff.mp h
  cases h
  obtain ⟨hs, hn⟩ := Key.find?_name_iff.mp hj
  by_cases hk : k = j
  · subst hk
    rw [if_pos hn, if_pos hs, hv]
    exact get_put_self (SettingKind.fits_of_ofToml? hv) s
  · rw [get_put_of_ne hk]
    split
    · rename_i hname
      -- a setting of the same name is one of another section
      have home : k.home ≠ sec := fun home => hk (Key.name_injective (home.trans hs.symm) (hname.trans hn.symm))
      rw [if_neg home]
      rfl
    · rfl

/-- a section is written as what it states -/
theorem get_putItem {sec : Section} {item : Toml.Item} (tidy : Toml.Tidy item.inside)
    (h : s.putItem sec item = some s') (k : Key) :
    s'.get k = if k.home = sec then (k.inItem? item).getD (s.get k) else s.get k := by
  have nodup : ((item.stated sec.keyNames).map Prod.fst).Nodup := by
    cases item with
    | table origin entries => exact tidy.nodup
    | inlineTable entries => exact tidy.nodup
    | array items => exact Keyed.nodup_zip sec.nodup_keyNames _
    | rows earlier last => exact Keyed.nodup_zip sec.nodup_keyNames _
    | _ => exact List.nodup_nil
  rw [get_putTable nodup (putItem_eq h)]
  by_cases hk : k.home = sec
  · subst hk
    simp only [if_pos]
    rfl
  · simp only [if_neg hk]
    cases (item.stated sec.keyNames).find? k.name <;> rfl

theorem get_ofToml {document : String} (h : ofToml document = .ok s) :
    ∃ t, Toml.parse? document = some t ∧ ∀ k : Key, s.get k = (k.inToml? t).getD (default.get k) := by
  unfold ofToml at h
  dsimp only at h
  split at h
  · rename_i s' hread
    cases h
    obtain ⟨t, ht, h⟩ := Option.bind_eq_some_iff.mp hread
    have tidy : Toml.Tidy t := Toml.tidy_parse? ht
    refine ⟨t, ht, get_foldlM (fun k => k.home.name) Key.inItem? ?_ tidy.nodup h⟩
    intro e he s s' h k
    obtain ⟨sec, hsec, h⟩ := Option.bind_eq_some_iff.mp h
    rw [get_putItem (tidy.of_mem he) h, ← Keyed.name_of_find? hsec]
    by_cases hk : k.home = sec
    · rw [if_pos hk, if_pos (congrArg Section.name hk)]
    · rw [if_neg hk, if_neg (mt Section.name_injective hk)]
  · cases h

end Settings

/-! ## documents -/

/-- the value that a document gives a setting, if it gives one -/
def Key.given? (format document : String) (k : Key) : Option Setting :=
  match format with
  | "toml" => (Toml.parse? document).bind k.inToml?
  | "json" => (Value.ofBytes (Utf8.ofText document)).toOption.bind k.inJson?
  | _ => none

/-- **The settings of a document are what it gives, and the default elsewhere.** -/
theorem Settings.get_ofDocument {format shown document : String} {s : Settings}
    (h : ofDocument format shown document = .ok s) (k : Key) :
    s.get k = (k.given? format document).getD (default.get k) := by
  unfold ofDocument at h
  unfold Key.given?
  split at h
  · obtain ⟨t, ht, hget⟩ := get_ofToml h
    rw [hget, ht]
    rfl
  · unfold ofJson at h
    split at h
    · rename_i record hr
      cases h
      obtain ⟨w, hw, hgives⟩ := exists_document hr
      rw [get_ofRecord, hgives, hw]
      rfl
    · cases h
  · cases h

end RequestPipeline
