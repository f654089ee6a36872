import RequestPipeline.Proofs.Json.Documents
import RequestPipeline.Proofs.Keyed
import RequestPipeline.Socket.EventFrame

/-!
# The texts that are events

An event is a JSON object with the fields `event`, `data` and `query`, each at most once and no other, in which
`event` is a text and `query` an object; `data` and `query` may be left out or null (`Documented`).  What is read is
more: an array of one to three items is taken as the fields in this order (`Listed`).

`parse_reads`: **a text is read as an event exactly in these two forms, and as the event that it states; every other
text is an invalid message.**
-/

namespace RequestPipeline.Socket.EventFrame

open Json (Value Members Reader entries?)

/-! ## the two forms -/

def names : List String := ["event", "data", "query"]

/-- whether a field is left out or null -/
def Absent (members : Members) (key : String) : Prop := members.get? key = none ∨ members.get? key = some .null

/-- the event that the fields of an object state -/
structure StatedBy (members : Members) (f : EventFrame) : Prop where
  event : members.get? "event" = some (.string f.event)
  data : match f.data with
    | none => Absent members "data"
    | some v => v ≠ .null ∧ members.get? "data" = some v
  query : match f.query with
    | none => Absent members "query"
    | some ms => members.get? "query" = some (.object ms)

/-- an object that states an event: its entries are fields of an event, none of them twice -/
def Documented (document : Bytes) (f : EventFrame) : Prop :=
  ∃ members, entries? document = some members ∧ (Members.keys members).Nodup ∧
    (∀ key ∈ Members.keys members, key ∈ names) ∧ StatedBy members f

/-- an array that states an event: its items are the first fields of an event, in their order -/
def Listed (document : Bytes) (f : EventFrame) : Prop :=
  ∃ vs, Value.ofBytes document = .ok (.array vs) ∧ vs.length ≤ names.length ∧ StatedBy (names.zip vs) f

/-! ## the fields -/

def fields : List Json.Field :=
  [⟨"event", .text, true⟩, ⟨"data", .optional .any, false⟩, ⟨"query", .optional .map, false⟩]

theorem names_eq : fields.map Json.Field.name = names := rfl

theorem nodup_names : names.Nodup := by decide

theorem faithful_fields : ∀ f ∈ fields, f.reader.Faithful := by
  unfold fields
  rw [List.forall_mem_cons, List.forall_mem_cons, List.forall_mem_singleton]
  exact ⟨Reader.faithful_text, Reader.faithful_optional Reader.faithful_any,
    Reader.faithful_optional Reader.faithful_map⟩

theorem keeps_optional {r : Reader} (keeps : ∀ {w v}, r.fromValue w = .ok v → v = w) {w v : Value}
    (h : (Reader.optional r).fromValue w = .ok v) : v = w := by
  cases w with
  | null => exact (Except.ok.inj h).symm
  | _ => exact keeps h

theorem keeps_fields : ∀ f ∈ fields, ∀ {w v}, f.reader.fromValue w = .ok v → v = w := by
  unfold fields
  rw [List.forall_mem_cons, List.forall_mem_cons, List.forall_mem_singleton]
  refine ⟨fun h => ?_, fun h => keeps_optional (fun h => (Except.ok.inj h).symm) h, fun h => keeps_optional ?_ h⟩
  · obtain ⟨s, -, hv⟩ := Reader.fromValue_text_iff.mp h
    exact hv
  · intro w v h
    obtain ⟨ms, -, hv⟩ := Reader.fromValue_map_iff.mp h
    exact hv

theorem mem_names_of_field? {key : String} {f : Json.Field} (h : Reader.field? fields key = some f) : key ∈ names := by
  rw [← Keyed.name_of_find? h, ← names_eq]
  exact List.mem_map_of_mem (List.mem_of_find?_eq_some h)

/-! ## what fields state -/

section
variable {members : Members}

/-- an event is determined by the fields that state it -/
theorem eq_of_statedBy {f g : EventFrame} (hf : StatedBy members f) (hg : StatedBy members g) : f = g := by
  obtain ⟨event, data, query⟩ := f
  obtain ⟨event', data', query'⟩ := g
  have he : event = event' := Value.string.inj (Option.some.inj (hf.event.symm.trans hg.event))
  have hd : data = data' := by
    have h := hf.data
    have h' := hg.data
    cases data <;> cases data' <;> simp_all [Absent]
  have hq : query = query' := by
    have h := hf.query
    have h' := hg.query
    cases query <;> cases query' <;> simp_all [Absent]
  rw [he, hd, hq]

variable (nodup : (Members.keys members).Nodup)
include nodup

/-- the fields that state an event are read as they are -/
theorem read_of_statedBy {f : EventFrame} (hf : StatedBy members f)
    (known : ∀ key ∈ Members.keys members, key ∈ names) :
    ∀ m ∈ members, ∃ g, Reader.field? fields m.1 = some g ∧ g.reader.fromValue m.2 = .ok m.2 := by
  rintro ⟨key, w⟩ hm
  have hw : members.get? key = some w := Members.get?_of_mem_of_nodup nodup hm
  have hkey : key = "event" ∨ key = "data" ∨ key = "query" := by
    simpa [names] using known key (List.mem_map_of_mem hm)
  rcases hkey with rfl | rfl | rfl
  · cases hw.symm.trans hf.event
    exact ⟨_, rfl, rfl⟩
  · refine ⟨_, rfl, ?_⟩
    cases w <;> rfl
  · refine ⟨_, rfl, ?_⟩
    have hq := hf.query
    split at hq
    · rcases hq with hq | hq
      · cases hw.symm.trans hq
      · cases hw.symm.trans hq
        rfl
    · cases hw.symm.trans hq
      rfl

/-- the values that the fields of an event take -/
theorem statedBy_ofRecord
    (read : ∀ m ∈ members, ∃ f, Reader.field? fields m.1 = some f ∧ f.reader.fromValue m.2 = .ok m.2)
    (event : members.contains "event" = true) : StatedBy members (ofRecord (.object (Members.ofList members))) := by
  have value : ∀ {key w}, members.get? key = some w →
      ∃ f, Reader.field? fields key = some f ∧ f.reader.fromValue w = .ok w :=
    fun h => read _ (Members.mem_of_get?_eq_some h)
  have look : ∀ key, Value.get? (.object (Members.ofList members)) key = members.get? key :=
    Members.get?_ofList nodup
  constructor
  · obtain ⟨w, hw⟩ := Option.isSome_iff_exists.mp event
    obtain ⟨f, hf, h⟩ := value hw
    cases hf
    obtain ⟨s, rfl, -⟩ := Reader.fromValue_text_iff.mp h
    show _ = some (Value.string (((Value.get? _ "event").bind Value.text?).getD ""))
    rw [look, hw]
    rfl
  · unfold ofRecord
    dsimp only
    rw [look]
    cases hw : members.get? "data" with
    | none => exact .inl hw
    | some w =>
      cases w with
      | null => exact .inr hw
      | _ => exact ⟨nofun, rfl⟩
  · unfold ofRecord
    dsimp only
    rw [look]
    cases hw : members.get? "query" with
    | none => exact .inl hw
    | some w =>
      obtain ⟨f, hf, h⟩ := value hw
      cases hf
      by_cases hn : w = .null
      · subst hn
        exact .inr hw
      · obtain ⟨ms, rfl, -⟩ := Reader.fromValue_map_iff.mp ((Reader.fromValue_optional hn).symm.trans h)
        rfl

theorem membersOfValues_iff {f : EventFrame} :
    (∃ v, Reader.membersOfValues fields true [] members = .ok v ∧ ofRecord v = f) ↔
      (∀ key ∈ Members.keys members, key ∈ names) ∧ StatedBy members f := by
  constructor
  · rintro ⟨v, h, rfl⟩
    obtain ⟨read, hc⟩ := (Reader.membersOfValues_eq_ok_iff keeps_fields).mp h
    obtain ⟨required, rfl⟩ := Reader.complete_eq_ok_iff.mp hc
    constructor
    · intro key hkey
      obtain ⟨m, hm, rfl⟩ := List.mem_map.mp hkey
      obtain ⟨f, hf, -⟩ := read m hm
      exact mem_names_of_field? hf
    · have hevent := required ⟨"event", .text, true⟩ List.mem_cons_self rfl
      refine statedBy_ofRecord nodup read ?_
      unfold Members.contains at hevent ⊢
      rwa [Members.get?_foldl_insert nodup, Members.get?_nil, Option.or_none] at hevent
  · rintro ⟨hkeys, hf⟩
    have read := read_of_statedBy nodup hf hkeys
    have event : members.contains "event" = true := by
      unfold Members.contains
      rw [hf.event]
      rfl
    refine ⟨.object (Members.ofList members), (Reader.membersOfValues_eq_ok_iff keeps_fields).mpr ⟨read, ?_⟩, ?_⟩
    · refine Reader.complete_eq_ok_iff.mpr ⟨?_, rfl⟩
      unfold fields
      rw [List.forall_mem_cons, List.forall_mem_cons, List.forall_mem_singleton]
      refine ⟨fun _ => ?_, nofun, nofun⟩
      unfold Members.contains at event ⊢
      rwa [Members.get?_foldl_insert nodup, Members.get?_nil, Option.or_none]
    · exact eq_of_statedBy (statedBy_ofRecord nodup read event) hf

end

/-! ## texts -/

theorem reader_parse_iff {document : Bytes} {f : EventFrame} :
    (∃ v, reader.parse document = .ok v ∧ ofRecord v = f) ↔ Documented document f ∨ Listed document f := by
  have named : (fields.map Json.Field.name).Nodup := nodup_names
  have hparse : ∀ {v}, reader.parse document = .ok v ↔ _ := Reader.parse_record_iff named faithful_fields
  constructor
  · rintro ⟨v, h, hv⟩
    rcases hparse.mp h with ⟨entries, he, hnodup, hread⟩ | ⟨vs, ha, hl, hread⟩
    · have hstated := (membersOfValues_iff hnodup).mp ⟨v, hread, hv⟩
      exact .inl ⟨entries, he, hnodup, hstated⟩
    · have hstated := (membersOfValues_iff (Keyed.nodup_zip nodup_names vs)).mp ⟨v, hread, hv⟩
      exact .inr ⟨vs, ha, hl, hstated.2⟩
  · rintro (⟨entries, he, hnodup, hstated⟩ | ⟨vs, ha, hl, hstated⟩)
    · obtain ⟨v, hread, hv⟩ := (membersOfValues_iff hnodup).mpr hstated
      exact ⟨v, hparse.mpr (.inl ⟨entries, he, hnodup, hread⟩), hv⟩
    · have hkeys : ∀ key ∈ Members.keys (names.zip vs), key ∈ names := by
        unfold Members.keys
        rw [Keyed.keys_zip]
        exact fun key h => List.mem_of_mem_take h
      obtain ⟨v, hread, hv⟩ := (membersOfValues_iff (Keyed.nodup_zip nodup_names vs)).mpr ⟨hkeys, hstated⟩
      exact ⟨v, hparse.mpr (.inr ⟨vs, ha, hl, hread⟩), hv⟩

/-- **A text is read as an event exactly when it states one in one of the two forms, and as that event; every other
text is an invalid message.** -/
theorem parse_reads (text : String) :
    (∀ f, parse text = .ok f ↔ Documented (Utf8.ofText text) f ∨ Listed (Utf8.ofText text) f) ∧
      ((∃ f, parse text = .ok f) ∨ ∃ m, parse text = .error (.invalidInput "message" (some m))) := by
  constructor
  · intro f
    rw [← reader_parse_iff]
    unfold parse
    cases reader.parse (Utf8.ofText text) with
    | error e => simp
    | ok v => simp
  · unfold parse
    cases reader.parse (Utf8.ofText text) with
    | error e => exact .inr ⟨_, rfl⟩
    | ok v => exact .inl ⟨_, rfl⟩

/-- an array is read as an event, though it is not one in its documented form -/
theorem listed_ping : parse "[\"ping\"]" = .ok ⟨"ping", none, none⟩ ∧
    ¬ ∃ f, Documented (Utf8.ofText "[\"ping\"]") f := by
  constructor
  · rfl
  · rintro ⟨f, members, h, -⟩
    cases h

end RequestPipeline.Socket.EventFrame
