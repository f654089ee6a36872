import RequestPipeline.Proofs.Dispatch.Passage
import RequestPipeline.Proofs.Reply.Projection
import RequestPipeline.Proofs.Serving.Answers
import RequestPipeline.Samples.Rooms

/-!
# The shape of what is sent

Data is sent in an envelope (`Envelops`): a document with the keys `data` and `meta`, which under `meta` has the number
of the items or nothing.  The number is counted behind the projection, but a projection keeps the kind of a value and
the length of a list (`project_array`, `items?_project`), so it is the number of the items that an operation returned.

`reply_shape`: **over both transports data is sent in an envelope, which has a number if and only if the data is a list; an
envelope is sent as it is, and bytes are handed on.**
-/

namespace RequestPipeline

open Json (Value Members)
open Socket (Gateway Session EventFrame Message)

/-! ## envelopes -/

/-- whether a document is the envelope of some content: it has two keys and no other, and says under the second one how
many items there are, and nothing else, or nothing at all -/
structure Json.Value.Envelops (doc content : Value) (size : Option Nat) : Prop where
  keys : ∃ ms : Members, doc = .object ms ∧ ms.keys = ["data", "meta"]
  data : doc.get? "data" = some content
  sized : ∀ n, size = some n → doc.get? "meta" = some (.object [("size", .ofNat n)])
  unsized : size = none → doc.get? "meta" = some (.object [])

theorem Envelope.envelops_toJson (e : Envelope) : e.toJson.Envelops e.data e.size := by
  obtain ⟨content, size⟩ := e
  cases size with
  | none => exact ⟨⟨_, rfl, rfl⟩, rfl, nofun, fun _ => rfl⟩
  | some n =>
    refine ⟨⟨_, rfl, rfl⟩, rfl, fun m hm => ?_, nofun⟩
    cases hm
    rfl

theorem Envelope.wrap_of_items?_eq_none {v : Value} (h : v.items? = none) : Envelope.wrap v = ⟨v, none⟩ := by
  cases v with
  | array vs => cases h
  | _ => rfl

/-- a projected list is wrapped with the number of the items that it had before -/
theorem Envelope.wrap_project_array (e : Exposure) (vs : List Value) :
    Envelope.wrap (e.project (.array vs)) = ⟨.array (vs.map e.project), some vs.length⟩ := by
  have length : (vs.map e.project).length = vs.length := List.length_map _
  rw [e.project_array, ← length]
  rfl

/-- what is no list is projected to no list -/
theorem Exposure.items?_project (e : Exposure) {v : Value} (h : v.items? = none) : (e.project v).items? = none := by
  cases v with
  | array vs => cases h
  | _ => rfl

/-! ## lists -/

section
variable {α : Type} {write : α → Except String Value} {items : List α}

theorem exists_mapM (h : ∀ item ∈ items, ∃ v, write item = .ok v) : ∃ vs, items.mapM write = .ok vs := by
  induction items with
  | nil => exact ⟨[], rfl⟩
  | cons item items ih =>
    obtain ⟨v, hv⟩ := h item List.mem_cons_self
    obtain ⟨vs, hvs⟩ := ih fun i hi => h i (List.mem_cons_of_mem _ hi)
    refine ⟨v :: vs, ?_⟩
    rw [List.mapM_cons, hv, hvs]
    rfl

theorem length_of_mapM {vs : List Value} (h : items.mapM write = .ok vs) : vs.length = items.length := by
  induction items generalizing vs with
  | nil =>
    cases h
    rfl
  | cons item items ih =>
    rw [List.mapM_cons] at h
    cases hv : write item with
    | error e =>
      rw [hv] at h
      cases h
    | ok v =>
      cases hvs : items.mapM write with
      | error e =>
        rw [hv, hvs] at h
        cases h
      | ok rest =>
        rw [hv, hvs] at h
        cases h
        rw [List.length_cons, List.length_cons, ih hvs]

variable {exposure : Exposure}

theorem Reply.list_of_written {vs : List Value} (h : items.mapM write = .ok vs) :
    Reply.list write items exposure = .ok (.data (.array vs) exposure) := by
  unfold Reply.list
  rw [h]
  rfl

/-- the reply with a list has as many items as the list -/
theorem Reply.exists_of_list {reply : Reply} (h : Reply.list write items exposure = .ok reply) :
    ∃ vs, reply = .data (.array vs) exposure ∧ vs.length = items.length := by
  cases hvs : items.mapM write with
  | error e =>
    unfold Reply.list at h
    rw [hvs] at h
    cases h
  | ok vs =>
    rw [Reply.list_of_written hvs] at h
    exact ⟨vs, (Except.ok.inj h).symm, length_of_mapM hvs⟩

end

/-! ## replies -/

/-- what becomes of a reply where documents can be sent and bytes can be handed on -/
structure Reply.Shape (reply : Reply) (sends : Value → Prop) (forwards : Blob → Prop) : Prop where
  /-- a list is sent with the number of the items that were returned, and as many are shown, each by itself -/
  items : ∀ vs exposure, reply = .data (.array vs) exposure → ∃ doc shown, sends doc ∧
    doc.Envelops (.array shown) (some vs.length) ∧ shown.length = vs.length ∧ shown = vs.map exposure.project
  /-- so a list of which each item can be written is sent with its length -/
  list : ∀ {α : Type} (write : α → Except String Value) (items : List α) exposure,
    Reply.list write items exposure = .ok reply → ∃ doc shown, sends doc ∧
      doc.Envelops (.array shown) (some items.length) ∧ shown.length = items.length
  /-- other data is sent without a number, and is no list after the projection -/
  single : ∀ v exposure, reply = .data v exposure → v.items? = none → ∃ doc, sends doc ∧
    doc.Envelops (exposure.project v) none ∧ (exposure.project v).items? = none
  /-- an envelope is sent as it is, whatever number it states -/
  envelope : ∀ e, reply = .envelope e → ∃ doc, sends doc ∧ doc.Envelops e.data e.size
  /-- bytes are handed on -/
  binary : ∀ b, reply = .binary b → forwards b

/-- a reply has its shape where an outgoing envelope is sent as a document, and outgoing bytes are handed on -/
theorem Reply.shape {reply : Reply} {sends : Value → Prop} {forwards : Blob → Prop}
    (envelope : ∀ e, reply.filter.outgoing = .envelope e → sends e.toJson)
    (binary : ∀ b, reply.filter.outgoing = .binary b → forwards b) : reply.Shape sends forwards := by
  have items : ∀ vs exposure, reply = .data (.array vs) exposure → ∃ doc shown, sends doc ∧
      doc.Envelops (.array shown) (some vs.length) ∧ shown.length = vs.length ∧ shown = vs.map exposure.project := by
    rintro vs exposure rfl
    have outgoing : (Reply.data (.array vs) exposure).filter.outgoing
        = .envelope ⟨.array (vs.map exposure.project), some vs.length⟩ :=
      congrArg Outgoing.envelope (Envelope.wrap_project_array exposure vs)
    exact ⟨_, _, envelope _ outgoing, Envelope.envelops_toJson _, List.length_map _, rfl⟩
  constructor
  case items => exact items
  case list =>
    intro α write list exposure h
    obtain ⟨vs, hvs, length⟩ := Reply.exists_of_list h
    obtain ⟨doc, shown, sent, envelops, shows, -⟩ := items vs exposure hvs
    rw [length] at envelops shows
    exact ⟨doc, shown, sent, envelops, shows⟩
  case single =>
    rintro v exposure rfl single
    have projected := exposure.items?_project single
    have outgoing : (Reply.data v exposure).filter.outgoing = .envelope ⟨exposure.project v, none⟩ :=
      congrArg Outgoing.envelope (Envelope.wrap_of_items?_eq_none projected)
    exact ⟨_, envelope _ outgoing, Envelope.envelops_toJson _, projected⟩
  case envelope =>
    rintro e rfl
    exact ⟨_, envelope e rfl, Envelope.envelops_toJson e⟩
  case binary =>
    rintro b rfl
    exact binary b rfl

/-! ## replies over the transports -/

/-- whether an operation gives a reply to what comes in -/
def Operation.Replies (op : Operation) (context : Option RequestContext) (inbound : Inbound) (reply : Reply) : Prop :=
  ∃ input, op.accept context inbound = .ok input ∧ (op.call context input).result = .ok reply

/-- how the reply of an operation to what comes in is sent over each transport -/
structure Sent (op : Operation) (context : Option RequestContext) (inbound : Inbound) (reply : Reply) : Prop where
  /-- in answer to a request, a document is the whole body, and so are bytes -/
  http : ∀ max id request, (HttpEndpoint.mk op.endpoint max).inbound request = .ok inbound →
    reply.Shape (fun doc => ((HttpEndpoint.mk op.endpoint max).handle context id request).value = .json 200 doc)
      fun b => ((HttpEndpoint.mk op.endpoint max).handle context id request).value = .bytes 200 b.contentType b.bytes ∧
        ((HttpEndpoint.mk op.endpoint max).handle context id request).value.body = b.bytes
  /-- in answer to an event, a document is what the event carries, and bytes are a message without a text -/
  webSocket : ∀ (g : Gateway) session text frame, EventFrame.parse text = .ok frame →
    g.find? frame.event = some op.endpoint → session.context g.factory = context → frame.inbound = inbound →
    reply.Shape (fun doc => (g.handleText session text).value
        = .document (Json.object [("event", .string frame.event), ("data", doc)]))
      fun b => (g.handleText session text).value = .binary b.bytes
  /-- and each list of which every item can be written makes a reply -/
  lists : ∀ {α : Type} (write : α → Except String Value) (items : List α) exposure,
    (∀ item ∈ items, ∃ v, write item = .ok v) → ∃ vs, Reply.list write items exposure = .ok (.data (.array vs) exposure) ∧
      vs.length = items.length

section
variable {op : Operation} {context : Option RequestContext} {inbound : Inbound} {reply : Reply}

theorem Operation.Replies.value_dispatch (replies : op.Replies context inbound reply) {host : Host}
    (served : host.IsServed) : (dispatch op host context inbound).value = .ok reply.filter.outgoing := by
  obtain ⟨input, accepted, result⟩ := replies
  rw [RequestPipeline.value_dispatch, accepted]
  exact Operation.outcome_of_served result served

/-- **Over both transports data is sent in an envelope, which states the number of the items if and only if the data is a
list, an envelope is sent as it is, and bytes are handed on.** -/
theorem reply_shape (replies : op.Replies context inbound reply) : Sent op context inbound reply := by
  constructor
  case http =>
    intro max id request came
    have value : ((HttpEndpoint.mk op.endpoint max).handle context id request).value
        = HttpEndpoint.render id (.ok reply.filter.outgoing) := by
      rw [HttpEndpoint.value_handle, HttpEndpoint.invoke_of_inbound _ _ _ came]
      exact congrArg (HttpEndpoint.render id) (replies.value_dispatch (.inl rfl))
    rw [value]
    refine Reply.shape (fun e outgoing => ?_) fun b outgoing => ?_
    · rw [outgoing]
      rfl
    · rw [outgoing]
      exact ⟨rfl, rfl⟩
  case webSocket =>
    rintro g session text frame parsed routed rfl rfl
    have value : (g.handleText session text).value
        = Gateway.render session frame.event (.ok reply.filter.outgoing) := by
      rw [g.value_handleText session parsed routed]
      exact congrArg (Gateway.render session frame.event) (replies.value_dispatch (.inr rfl))
    rw [value]
    refine Reply.shape (fun e outgoing => ?_) fun b outgoing => ?_
    · rw [outgoing]
      rfl
    · rw [outgoing]
      rfl
  case lists =>
    intro α write items exposure written
    obtain ⟨vs, hvs⟩ := exists_mapM written
    exact ⟨vs, Reply.list_of_written hvs, length_of_mapM hvs⟩

end

/-- a request for the rooms -/
def Samples.listing : Request := ⟨"GET", ⟨"/rooms", none⟩, [], []⟩

/-- the rooms that are listed without a limit -/
def Samples.listed : List Value := (List.range 3).map fun (n : Nat) => room n 1

/-- three rooms are listed, without their secrets -/
theorem reply_shape_rooms :
    Samples.rooms.Replies none ⟨[], none⟩ (.data (.array Samples.listed) Samples.roomExposure) ∧
    ∃ doc, ((HttpEndpoint.mk Samples.rooms.endpoint 100).handle none ⟨7⟩ Samples.listing).value = .json 200 doc ∧
      doc.get? "meta" = some (.object [("size", .ofNat 3)]) := by
  have replies : Samples.rooms.Replies none ⟨[], none⟩ (.data (.array Samples.listed) Samples.roomExposure) :=
    ⟨_, rfl, rfl⟩
  have came : (HttpEndpoint.mk Samples.rooms.endpoint 100).inbound Samples.listing = .ok ⟨[], none⟩ := rfl
  obtain ⟨doc, shown, sent, envelops, -⟩ := ((reply_shape replies).http 100 ⟨7⟩ Samples.listing came).items _ _ rfl
  exact ⟨replies, doc, sent, envelops.sized 3 rfl⟩

end RequestPipeline
