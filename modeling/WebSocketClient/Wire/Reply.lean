import WebSocketClient.Wire.Message

/-!
# Replies that the protocol asks for

A client answers a ping with a pong of the same payload, and a close with a close, until it has
sent a close of its own.  A close with a status that must not be sent counts as a violation of the
protocol, and is answered and taken as one.
-/

namespace WebSocketClient.Wire

set_option autoImplicit false

namespace CloseBody

/-- The numbers that may stand in a close frame. -/
def isAllowed (status : UInt16) : Bool :=
  (1000 ≤ status && status ≤ 1003) || (1007 ≤ status && status ≤ 1013)
    || (3000 ≤ status && status ≤ 4999)

/-- What takes the place of a close that must not be sent. -/
def violation : CloseBody :=
  ⟨1002, "Protocol violation"⟩

end CloseBody

namespace Message

/-- A message as it is taken by a client that has not sent a close. -/
def admitted : Message → Message
  | close (some body) =>
    close (some (if CloseBody.isAllowed body.status then body else CloseBody.violation))
  | message => message

/-- The reply of a client that has not sent a close. -/
def reply? : Message → Option Message
  | ping payload => some (pong payload)
  | close body => some (close body)
  | _ => none

end Message

end WebSocketClient.Wire
