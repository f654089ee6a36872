import RequestPipeline.Operation
import RequestPipeline.Validation.Pagination
import RequestPipeline.Json.Lookup

/-!
# A sample service

Operations on rooms and tickets, one for each way an operation may look: with and without a context, with a
query, with a body, and one that takes its time.  A room has a secret that its exposure does not list.
-/

namespace RequestPipeline.Samples

open Json (Value Members Reader)
open Validation (Target Schema FieldSpec Kind Rule Pagination)

/-! ## inputs -/

def target (schema : Schema) (reader : Reader) : Target Value :=
  ⟨schema, fun ms => reader.convert (.object ms)⟩

/-- an object with a value for a key that is missing or null -/
def fill (key : String) (missing v : Value) : Value :=
  match v with
  | .object ms => if (v.part key).isNull then .object (Members.insert key missing ms) else v
  | v => v

/-- a field with rules that have no words of their own -/
def field (name : String) (kind : Kind) (optional : Bool) (rules : List Rule) : FieldSpec :=
  ⟨name, kind, optional, false, rules.map fun r => ⟨r, false, none⟩⟩

def ids : Reader := .list .int64

def newTicket : Target Value :=
  (target
    ⟨"NewTicket", [field "title" .string false [.notEmpty, .maxLength 10],
      field "seat_ids" .integerList true [.min 1],
      ⟨"priority", .string, true, false, [⟨.oneOf ["low", "high"], true, none⟩]⟩,
      field "owner_id" .integer false []], []⟩
    (.record "NewTicket" false [⟨"title", .text, true⟩, ⟨"seat_ids", ids, false⟩,
      ⟨"priority", .optional .text, false⟩, ⟨"owner_id", .int64, true⟩])).map
    fun v => fill "seat_ids" (.array []) (fill "priority" .null v)

def listRooms : Target Value :=
  (target
    ⟨"ListRooms", Pagination.fields ++ [field "ids" .integerList true []], [Pagination.conflict]⟩
    (.record "ListRooms" false [⟨"limit", .uint32, false⟩, ⟨"offset", .optional .uint64, false⟩,
      ⟨"cursor", .optional .uint64, false⟩, ⟨"ids", ids, false⟩])).map
    fun v => fill "ids" (.array []) (fill "limit" (.ofNat Pagination.defaultLimit)
      (fill "offset" .null (fill "cursor" .null v)))

def ticketId : Target Value :=
  target ⟨"TicketId", [field "id" .integer false []], []⟩
    (.record "TicketId" false [⟨"id", .uint64, true⟩])

def noInput : Target Value := ⟨.empty, fun _ => .ok (.string "Empty")⟩

def page : Target Value := Pagination.target.map Pagination.toJson

/-! ## operations -/

def room (id owner : Int) : Value :=
  Json.object [("id", .ofInt id), ("owner_id", .ofInt owner), ("secret", .string "s")]

def roomExposure : Exposure := .mk "Room" [("id", none), ("owner_id", none)]

def prompt (name : String) (query body : Target Value)
    (call : Option RequestContext → Input → Except Failure Reply) : Operation :=
  ⟨name, query, body, fun c i => ⟨0, call c i⟩⟩

/-- what somebody unknown is told -/
def loginRequired : Failure := .unauthorized "login required"

def whoami : Operation := prompt "whoami" noInput noInput fun c _ =>
  match c with
  | some c => .ok (.untyped (.array [.ofInt c.principalId, .string c.requestId.render]))
  | none => .error loginRequired

/-- lists at most three rooms -/
def rooms : Operation := prompt "list_rooms" page noInput fun _ i =>
  let count := min (i.query.natOr "limit" 0) 3
  .ok (.data (.array ((List.range count).map fun (n : Nat) => room n 1)) roomExposure)

def getTicket : Operation := prompt "get_ticket" ticketId noInput fun c i =>
  match c with
  | some c => .ok (.data (room ((i.query.part "id").int?.getD 0) c.principalId) roomExposure)
  | none => .error loginRequired

/-- makes a ticket; nobody in particular is owner -1 -/
def create : Operation := prompt "create" noInput newTicket fun c i =>
  .ok (.data (room (i.body.list "seat_ids").length ((c.map (·.principalId)).getD (-1))) roomExposure)

def stall : Operation := ⟨"stall", noInput, noInput, fun _ _ => ⟨60000, .ok (.untyped .null)⟩⟩

def operations : List Operation := [whoami, rooms, getTicket, create, stall]

def operation? (name : String) : Option Operation := operations.find? fun op => op.name == name

end RequestPipeline.Samples
