import RequestPipeline.Http.Message
import RequestPipeline.Json.Parse

/-!
# Reading the body of a request

A body is read as JSON within a limit of bytes: first its size is checked, then an empty body is none,
then its media type, and last the document.  `ExtractionFault` says what is wrong with it.
-/

namespace RequestPipeline

inductive RequestPart where
  | query | body | contentType
  deriving DecidableEq, Repr

def RequestPart.name : RequestPart → String
  | .query => "query"
  | .body => "body"
  | .contentType => "content-type"

inductive ExtractionFault where
  | malformed (part : RequestPart) (details : String)
  | tooLarge (max actual : Nat)
  | mediaType (expected actual : String)
  deriving DecidableEq, Repr

namespace ExtractionFault

def part : ExtractionFault → RequestPart
  | .malformed p _ => p
  | .tooLarge .. => .body
  | .mediaType .. => .contentType

def message : ExtractionFault → String
  | .malformed p details => "failed to decode " ++ p.name ++ ": " ++ details
  | .tooLarge max actual =>
    "payload too large: max " ++ String.ofList (Text.ofNat max) ++ " bytes, got " ++
      String.ofList (Text.ofNat actual) ++ " bytes"
  | .mediaType expected actual =>
    "unsupported content type: expected '" ++ expected ++ "', got '" ++ actual ++ "'"

def status : ExtractionFault → Nat
  | .malformed .. => 400
  | .tooLarge .. => 413
  | .mediaType .. => 415

def failure (f : ExtractionFault) : Failure := .invalidInput f.part.name (some f.message)

end ExtractionFault

def jsonMediaType : String := "application/json"

/-- whether a media type, without its parameters, is JSON -/
def isJsonMediaType (contentType : String) : Bool :=
  let essence := Text.trimChars (contentType.toList.takeWhile (· != ';'))
  let essence := essence.map Text.lowerChar
  essence == jsonMediaType.toList || "+json".toList.isSuffixOf essence

def defaultMaxBody : Nat := 1048576

/-- the JSON document in a body, if it is not empty -/
def readBody (max : Nat) (headers : Headers) (body : Bytes) :
    Except ExtractionFault (Option Json.Value) :=
  if max < body.length then .error (.tooLarge max body.length)
  else if body.isEmpty then .ok none
  else
    let document :=
      match Json.Value.parse body with
      | .ok v => .ok (some v)
      | .error e => .error (.malformed .body e)
    match headers.text? "content-type" with
    | some contentType =>
      if isJsonMediaType contentType then document
      else .error (.mediaType jsonMediaType contentType)
    | none => document

end RequestPipeline
