import RequestPipeline.Http.Description
import RequestPipeline.Reply.Envelope

/-!
# Descriptions of replies

An exposure is described by its name and its fields: a text for a plain one, a name with an exposure for one
that shows what is inside.
-/

namespace RequestPipeline

open Json (Value Members)

namespace Exposure

mutual

def ofJson : Value → Exposure
  | .object ms => ofMembers "Output" [] ms
  | _ => nothing

def ofMembers (name : String) (entries : List (String × Option Exposure)) :
    List (String × Value) → Exposure
  | [] => .mk name entries
  | (k, v) :: ms =>
    match k, v with
    | "name", .string n => ofMembers n entries ms
    | "fields", .array vs => ofMembers name (entriesOf vs) ms
    | _, _ => ofMembers name entries ms

def entriesOf : List Value → List (String × Option Exposure)
  | [] => []
  | .string n :: vs => (n, none) :: entriesOf vs
  | .object ms :: vs => ((Value.object ms).textOr "name" "", some (nestedOf ms)) :: entriesOf vs
  | _ :: vs => ("", some nothing) :: entriesOf vs

def nestedOf : List (String × Value) → Exposure
  | [] => nothing
  | (k, v) :: ms => if k = "nested" then ofJson v else nestedOf ms

end

end Exposure

def Outgoing.describe (r : Except Failure Outgoing) : Value :=
  match r with
  | .ok (.envelope e) => Json.object [("envelope", e.toJson)]
  | .ok (.binary b) =>
    Json.object [("binary", Bytes.toJson b.bytes), ("content_type", .string b.contentType)]
  | .error f => f.toJson

namespace Reply

/-- a value that is to be written; one text stands for a value that cannot be written -/
def written (v : Value) : Except String Value :=
  if v == .string "fail" then .error "told to fail" else .ok v

def observed (context : Option RequestContext) (query body : Value) : Value :=
  Json.object
    [("context", .ofOptional RequestContext.toJson context), ("query", query), ("body", body)]

/-- the reply that a description asks for: by the first key that it has -/
def ofJson (v : Value) (e : Exposure) : Except Failure Reply :=
  if v.has "data" then ofResult (written (v.part "data")) e
  else if v.has "list" then list written (v.list "list") e
  else if v.has "envelope" then .ok (.envelope (.wrap (v.part "envelope")))
  else if v.has "raw_envelope" then
    match Envelope.ofJson (v.part "raw_envelope") with
    | .ok e => .ok (.envelope e)
    | .error m => .error (.internal "bad envelope" (some m))
  else if v.has "binary" then
    .ok (.binary ⟨v.textOr "content_type" "application/octet-stream", Bytes.ofJson (v.part "binary")⟩)
  else if v.has "error" then .error (Failure.ofJson (v.part "error"))
  else .ok (.untyped (v.part "untyped"))

end Reply
end RequestPipeline
