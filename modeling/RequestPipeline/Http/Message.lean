import RequestPipeline.Http.Header
import RequestPipeline.Context
import RequestPipeline.Json.Print

/-!
# Requests and responses

A request names a target by path and query.  `RequestTarget.parse` takes them from the text of a target: a path
with an optional query, or a whole address, whose path and query count; a fragment is dropped.  Responses
have either a JSON body or bytes of a stated type.
-/

namespace RequestPipeline

structure RequestTarget where
  path : String
  query : Option String
  deriving DecidableEq, Repr

namespace RequestTarget

/-- splits the text behind the authority into path and query -/
def ofPathAndQuery (cs : List Char) : RequestTarget :=
  let cs := cs.takeWhile (· != '#')
  let path := cs.takeWhile (· != '?')
  let query :=
    match cs.dropWhile (· != '?') with
    | [] => none
    | _ :: q => some (String.ofList q)
  ⟨if path.isEmpty then "/" else String.ofList path, query⟩

/-- the text behind `://` and the authority, if there is such a part -/
def afterAuthority? : List Char → Option (List Char)
  | [] => none
  | ':' :: '/' :: '/' :: rest => some (rest.dropWhile fun c => c != '/' && c != '?' && c != '#')
  | '/' :: _ => none
  | '?' :: _ => none
  | '#' :: _ => none
  | _ :: rest => afterAuthority? rest

def parse (s : String) : RequestTarget :=
  match s.toList with
  | '/' :: cs => ofPathAndQuery ('/' :: cs)
  | ['*'] => ⟨"*", none⟩
  | cs =>
    match afterAuthority? cs with
    | some rest => ofPathAndQuery rest
    | none => ⟨"", none⟩

end RequestTarget

/-- a request with its whole body -/
structure Request where
  method : String
  target : RequestTarget
  headers : Headers
  body : Bytes
  deriving DecidableEq, Repr

structure Response where
  status : Nat
  headers : Headers
  body : Bytes
  deriving DecidableEq, Repr

namespace Response

def json (status : Nat) (body : Json.Value) : Response :=
  ⟨status, [("content-type", Utf8.ofText "application/json")], Utf8.encode body.chars⟩

/-- a response with bytes of a type; a type that cannot stand in a header is not stated -/
def bytes (status : Nat) (contentType : String) (body : Bytes) : Response :=
  let value := (headerValue? contentType).getD (Utf8.ofText "application/octet-stream")
  ⟨status, [("content-type", value)], body⟩

def failure (f : Failure) (requestId : CorrelationId) : Response :=
  json f.status (f.body (some requestId.render))

def withHeader (r : Response) (name : String) (value : Bytes) : Response :=
  { r with headers := r.headers.insert name value }

end Response
end RequestPipeline
