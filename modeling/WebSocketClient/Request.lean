import WebSocketClient.Failure

/-!
# Requests of a host

A host asks its connection to send a message or to close.  Whether a request is passed on to the
transport depends on the ready state and on the arguments alone: a message is refused unless the
connection is open; a close is refused for a code that may not be sent or a reason that is too
long, whatever the state, and there is nothing left to do for one on a closed connection.
-/

namespace WebSocketClient

set_option autoImplicit false

/-- What a host asks for, and what a transport is asked to do once the request is passed on. -/
inductive Command where
  | send (payload : String)
  | close (code : CloseCode) (reason : String)
deriving Repr, BEq

/-- The close that a host asks for without saying more. -/
def Command.normalClose : Command :=
  .close .normal ""

/-- What becomes of a request: it is refused, there is nothing to do, or it is passed on. -/
inductive Verdict where
  | refused (failure : Failure)
  | settled
  | passed (command : Command)
deriving Repr, BEq

namespace Verdict

/-- The longest reason that fits into a close frame, in bytes. -/
def maxReason : Nat :=
  123

/-- A request to send a message. -/
def ofSend (state : ReadyState) (payload : String) : Verdict :=
  if state.canSend then passed (.send payload) else refused (.notOpen state)

/-- A request to close. -/
def ofClose (state : ReadyState) (code : CloseCode) (reason : String) : Verdict :=
  if !code.isValid then refused (.invalidCloseCode code.number)
  else if maxReason < reason.utf8ByteSize then
    refused (.closeReasonTooLong reason.utf8ByteSize maxReason)
  else if state.isActive then passed (.close code reason)
  else settled

/-- What becomes of a request in a state. -/
def ofRequest (state : ReadyState) : Command → Verdict
  | .send payload => ofSend state payload
  | .close code reason => ofClose state code reason

end Verdict

end WebSocketClient
