import RequestPipeline.Http.Description
import RequestPipeline.Socket.Conversation

/-!
# Descriptions of conversations

Messages and the steps of a client as values, and what comes of them.
-/

namespace RequestPipeline.Socket

open Json (Value)

namespace SocketFault

def kind : SocketFault → String
  | .notUpgrade _ => "NotWebSocketRequest"
  | .handshakeFailed _ => "HandshakeFailed"
  | .closed .. => "ConnectionClosed"
  | .idle _ => "IdleTimeout"
  | .sendFailed _ => "SendFailed"
  | .io _ => "Io"
  | .wire _ => "Tungstenite"

def toJson (f : SocketFault) : Value :=
  Json.object
    [("error", .string f.kind), ("message", .string f.message),
      ("close_code", .ofOptional .ofNat f.closeCode?), ("normal", .bool f.isNormal)]

def ofJson (v : Value) : SocketFault :=
  let message := v.textOr "message" ""
  match v.textOr "kind" "" with
  | "not_websocket" => .notUpgrade message
  | "handshake_failed" => .handshakeFailed message
  | "connection_closed" => .closed (v.part "code").nat? message
  | "idle_timeout" => .idle (v.natOr "ms" 0)
  | "send_failed" => .sendFailed message
  | "io" => .io message
  | "closed" => .wire .finished
  | _ => .wire .alreadyFinished

/-- a result that is a fault or nothing, as a value -/
def describe (r : Except SocketFault Unit) : Value :=
  match r with
  | .ok () => .string "ok"
  | .error f => f.toJson

end SocketFault

/-- the text of described bytes; what is no text in them is replaced -/
def textOfJson (v : Value) : String := String.ofList (Utf8.decodeLossy (Bytes.ofJson v))

namespace Message

/-- the message of a description; a text stands for itself -/
def ofJson (v : Value) : Message :=
  match v with
  | .string t => .text t
  | v =>
    if v.has "text" then .text (textOfJson (v.part "text"))
    else if v.has "binary" then .binary (Bytes.ofJson (v.part "binary"))
    else if v.has "ping" then .ping (Bytes.ofJson (v.part "ping"))
    else if v.has "pong" then .pong (Bytes.ofJson (v.part "pong"))
    else
      let c := v.part "close"
      .close ((c.item 0).nat?.map fun code => ⟨code, c.itemText 1⟩)

def toJson : Message → Value
  | .text t => Json.object [("text", .string t)]
  | .binary b => Json.object [("binary", Bytes.toJson b)]
  | .ping b => Json.object [("ping", Bytes.toJson b)]
  | .pong b => Json.object [("pong", Bytes.toJson b)]
  | .close c =>
    Json.object
      [("close", .ofOptional (fun (c : Closing) => .array [.ofNat c.code, .string c.reason]) c)]

end Message

def ClientStep.ofJson (v : Value) : ClientStep :=
  if v.has "raw" then .raw (Bytes.ofJson (v.part "raw"))
  else if v.has "sleep_ms" then .sleep (v.natOr "sleep_ms" 0)
  else if v.has "leave" then .leave
  else .send (.ofJson v)

def ClientAnswer.toJson : ClientAnswer → Value
  | .heard ms ended =>
    .array (ms.map Message.toJson ++ if ended then [.string "end"] else [])
  | .left => .string "left"
  | .gone => .string "gone"

def Limits.ofJson (v : Value) : Limits :=
  let d := Limits.default
  ⟨v.natOr "max_message_size" d.maxMessage, v.natOr "max_frame_size" d.maxFrame,
    if v.has "idle_ms" then (v.part "idle_ms").nat? else d.idle⟩

end RequestPipeline.Socket
