import WebSocketClient.Wire.Frame

/-!
# Messages

A message is what one frame, or several in a row, say: a text, some bytes, a ping, a pong or a
close.  A close may carry a status and a reason; in its frame the status comes first, as two bytes,
and the reason fills the rest.
-/

namespace WebSocketClient.Wire

set_option autoImplicit false

/-- The status of a close, and the reason for it. -/
structure CloseBody where
  status : UInt16
  reason : String
deriving DecidableEq, Repr

/-- What a peer says. -/
inductive Message where
  | text (payload : String)
  | binary (payload : List UInt8)
  | ping (payload : List UInt8)
  | pong (payload : List UInt8)
  | close (body : Option CloseBody)
deriving DecidableEq, Repr

namespace CloseBody

/-- The payload of a close frame. -/
def encode (body : CloseBody) : List UInt8 :=
  toBigEndian 2 body.status.toNat ++ Utf8.encode body.reason

/-- The close that a payload stands for: an empty payload carries nothing. -/
def decode : List UInt8 → Except Fault (Option CloseBody)
  | [] => .ok none
  | [_] => .error .shortClose
  | high :: low :: reason =>
    match Utf8.decode reason with
    | .ok text => .ok (some ⟨UInt16.ofNat (ofBigEndian [high, low]), text⟩)
    | .error fault => .error (.invalidText fault)

end CloseBody

namespace Message

/-- The opcode of the frame that carries a message. -/
def opcode : Message → Opcode
  | text _ => .text
  | binary _ => .binary
  | ping _ => .ping
  | pong _ => .pong
  | close _ => .close

/-- The payload of the frame that carries a message. -/
def payload : Message → List UInt8
  | text payload => Utf8.encode payload
  | binary payload => payload
  | ping payload => payload
  | pong payload => payload
  | close body => (body.map CloseBody.encode).getD []

/-- The frame in which a client sends a message: always a single one, and masked. -/
def clientFrame (message : Message) : Frame :=
  { opcode := message.opcode, masked := true, payload := message.payload }

/-- Whether nothing more is said after a message. -/
def isClose : Message → Bool
  | close _ => true
  | _ => false

end Message

end WebSocketClient.Wire
