import RequestPipeline.Reply.Description
import RequestPipeline.Samples.Rooms
import RequestPipeline.Validation.Description

/-!
# Scripted operations

An operation can be described: the schemas of its input, what it exposes, how long it takes and what it
replies.  A text names an operation of the sample service.
-/

namespace RequestPipeline.Samples

open Json (Value Members)
open Validation (Schema Violation Finding)

def checks : String → Finding
  | "owner_matches", ms, c =>
    match (ms.get? "owner_id").bind Value.int?, c with
    | some i, some c =>
      if i = c.principalId then none
      else some ⟨"owner_id", .custom, "owner_id must match the caller", false⟩
    | _, _ => none
  | "owner_only", _, c =>
    if c.any fun c => c.hasRole "owner" then none
    else some ⟨"name", .custom, "only owners may rename", false⟩
  | "seen_fields", ms, _ => some ⟨"*", .custom, "saw " ++ "+".intercalate ms.keys, ms.isEmpty⟩
  | "late_conflict", ms, _ =>
    if ms.contains "conflict" then some ⟨"conflict", .cursorConflict, "late", false⟩ else none
  | _, _, _ => none

def schema (v : Value) : Schema := .ofJson checks v

/-- the target that takes an object as it is once its schema allows it -/
def plain (v : Value) : Validation.Target Value := ⟨schema v, fun ms => .ok (.object ms)⟩

def reply (v : Value) (e : Exposure) (context : Option RequestContext) (input : Input) :
    Except Failure Reply :=
  match v with
  | .string "observe" =>
    .ok (.envelope (.wrap (Reply.observed context input.query input.body)))
  | .string _ => Reply.ofResult (.ok input.body) e
  | v => Reply.ofJson v e

def scripted (v : Value) : Operation :=
  ⟨v.textOr "name" "script", plain (v.part "query"), plain (v.part "body"), fun c i =>
    ⟨v.natOr "sleep_ms" 0, reply (v.part "reply") (.ofJson (v.part "exposure")) c i⟩⟩

/-- the operation of a description, which may be a name -/
def operation (v : Value) : Operation := ((v.text?).bind operation?).getD (scripted v)

end RequestPipeline.Samples
