import RequestPipeline.Json.Value

/-!
# Failures of a request

A `Failure` says why a request was not answered with a result.  Each has a category, which fixes the
status of the response, a code for programs and a wording for people.  `Failure.body` renders it for a
client: invalid input as the property and the message, everything else as an envelope with the id of the
request.  The source of an internal failure is for logs alone: no rendering shows it.
-/

namespace RequestPipeline

inductive Failure where
  | invalidInput (property : String) (message : Option String)
  | cursorConflict (property : String) (message : Option String)
  | unsupportedTransport (host : String)
  | unauthorized (message : String)
  | forbidden (message : String)
  | notFound (message : String)
  | conflict (message : String)
  | timeout (message : String)
  | internal (message : String) (source : Option String)
  deriving DecidableEq, Repr

inductive Category where
  | validation | authentication | authorization | notFound | conflict | timeout | configuration
  | internal
  deriving DecidableEq, Repr

namespace Category

def name : Category → String
  | .validation => "validation"
  | .authentication => "authentication"
  | .authorization => "authorization"
  | .notFound => "not_found"
  | .conflict => "conflict"
  | .timeout => "timeout"
  | .configuration => "configuration"
  | .internal => "internal"

def status : Category → Nat
  | .validation => 400
  | .authentication => 401
  | .authorization => 403
  | .notFound => 404
  | .conflict => 409
  | .timeout => 504
  | .configuration => 500
  | .internal => 500

end Category

namespace Failure

def category : Failure → Category
  | .invalidInput .. => .validation
  | .cursorConflict .. => .validation
  | .unsupportedTransport _ => .configuration
  | .unauthorized _ => .authentication
  | .forbidden _ => .authorization
  | .notFound _ => .notFound
  | .conflict _ => .conflict
  | .timeout _ => .timeout
  | .internal .. => .internal

def status (f : Failure) : Nat := f.category.status

/-- the code of a failure, for programs -/
def code : Failure → String
  | .invalidInput .. => "INVALID_INPUT"
  | .cursorConflict .. => "CURSOR_CONFLICT"
  | .unsupportedTransport _ => "UNSUPPORTED_TRANSPORT"
  | .unauthorized _ => "UNAUTHORIZED"
  | .forbidden _ => "FORBIDDEN"
  | .notFound _ => "NOT_FOUND"
  | .conflict _ => "CONFLICT"
  | .timeout _ => "TIMEOUT"
  | .internal .. => "INTERNAL_ERROR"

def message : Failure → String
  | .invalidInput property _ => "invalid input for `" ++ property ++ "`"
  | .cursorConflict property _ => "cursor conflict on `" ++ property ++ "`"
  | .unsupportedTransport host => "unsupported transport: " ++ host
  | .unauthorized m => "unauthorized: " ++ m
  | .forbidden m => "forbidden: " ++ m
  | .notFound m => "not found: " ++ m
  | .conflict m => "conflict: " ++ m
  | .timeout m => "timeout: " ++ m
  | .internal m _ => "internal error: " ++ m

/-- whether the client sent something that is not valid -/
def isValidation (f : Failure) : Bool := f.category == .validation

def isClientError (f : Failure) : Bool := 400 ≤ f.status && f.status < 500

/-- the underlying cause of an internal failure, for logs -/
def source : Failure → Option String
  | .internal _ s => s
  | _ => none

/-- a failure as an envelope, with the id of the request if it is known -/
def envelope (f : Failure) (requestId : Option String) : Json.Value :=
  let error := Json.object
    [("code", .string f.code), ("message", .string f.message),
      ("category", .string f.category.name)]
  match requestId with
  | some id => Json.object [("error", error), ("request_id", .string id)]
  | none => Json.object [("error", error)]

/-- a property with the message about it, if there is one -/
def validationBody (property : String) (message : Option String) : Json.Value :=
  match message with
  | some m => Json.object [("property", .string property), ("message", .string m)]
  | none => Json.object [("property", .string property)]

/-- a failure as the client sees it -/
def body (f : Failure) (requestId : Option String) : Json.Value :=
  match f with
  | .invalidInput property message => validationBody property message
  | .cursorConflict property message => validationBody property message
  | f => f.envelope requestId

/-- the body does not depend on the source of an internal failure -/
theorem body_internal (m : String) (s t : Option String) (requestId : Option String) :
    (internal m s).body requestId = (internal m t).body requestId := rfl

/-- invalid input is rendered without the id of the request -/
theorem body_of_isValidation {f : Failure} (h : f.isValidation = true) (a b : Option String) :
    f.body a = f.body b := by
  cases f <;> first | rfl | simp [isValidation, category] at h

end Failure
end RequestPipeline
