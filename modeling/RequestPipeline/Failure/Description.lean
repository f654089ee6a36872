import RequestPipeline.Failure
import RequestPipeline.Json.Lookup

/-!
# Descriptions of failures

`Failure.toJson` says everything that is known about a failure, its source too, for tools and logs; a client
sees `Failure.body` alone.  `Failure.ofJson` makes the failure that a description asks for.
-/

namespace RequestPipeline.Failure

open Json (Value)

def kind : Failure → String
  | .invalidInput .. => "InvalidInput"
  | .cursorConflict .. => "CursorConflict"
  | .unsupportedTransport _ => "UnsupportedTransport"
  | .unauthorized _ => "Unauthorized"
  | .forbidden _ => "Forbidden"
  | .notFound _ => "NotFound"
  | .conflict _ => "Conflict"
  | .timeout _ => "Timeout"
  | .internal .. => "Internal"

/-- everything else about a failure; its body is rendered with the id of a request, if one is given -/
def facts (f : Failure) (requestId : Option String) : List (String × Value) :=
  [("message", .string f.message), ("status", .ofNat f.status), ("code", .string f.code),
    ("category", .string f.category.name), ("validation", .bool f.isValidation),
    ("body", f.body requestId)] ++ (f.source.map fun s => ("source", Value.string s)).toList

def toJson (f : Failure) : Value := Json.object (("error", .string f.kind) :: f.facts none)

/-- the failure that a description asks for; an internal one if it names no other -/
def ofJson (v : Value) : Failure :=
  let message := v.textOr "message" ""
  match v.textOr "kind" "" with
  | "invalid_input" => .invalidInput (v.textOr "property" "") (v.part "message").text?
  | "cursor_conflict" => .cursorConflict (v.textOr "property" "") (v.part "message").text?
  | "unsupported_transport" => .unsupportedTransport (v.textOr "host" "")
  | "unauthorized" => .unauthorized message
  | "forbidden" => .forbidden message
  | "not_found" => .notFound message
  | "conflict" => .conflict message
  | "timeout" => .timeout message
  | _ => .internal message (v.part "source").text?

end RequestPipeline.Failure
