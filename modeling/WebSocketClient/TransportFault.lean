import WebSocketClient.Dial
import WebSocketClient.Http.Fault
import WebSocketClient.Wire.Fault

/-!
# Faults of a transport

A transport fails because it cannot dial, because the operating system reports a fault, because
the opening handshake fails, or because of what the peer sends.  A host learns only the wording.
-/

namespace WebSocketClient

set_option autoImplicit false

/-- A fault that the operating system reports for a stream. -/
inductive StreamFault where
  | refused
  | broken
  | reset
deriving DecidableEq, Repr

/-- The wording for a reader, with the system's number of the fault. -/
def StreamFault.message : StreamFault → String
  | refused => "IO error: Connection refused (os error 111)"
  | broken => "IO error: Broken pipe (os error 32)"
  | reset => "IO error: Connection reset by peer (os error 104)"

/-- Why a transport fails. -/
inductive TransportFault where
  | dial (fault : Dial.Fault)
  | stream (fault : StreamFault)
  | opening (fault : Http.Fault)
  | wire (fault : Wire.Fault)
deriving DecidableEq, Repr

namespace TransportFault

/-- The wording for a reader. -/
def message : TransportFault → String
  | dial fault => fault.message
  | stream fault => fault.message
  | opening fault => fault.message
  | wire fault => fault.message

end TransportFault

/-- Dials: the text is read, the stream is connected if there is someone to connect to, and only
then does it turn out whether the scheme can be served. -/
def Dial.attempt (text : String) (reachable : Bool) : Except TransportFault Dial := do
  let dial ← (Dial.parse text).mapError .dial
  if dial.port?.isNone then throw (.dial .unsupportedScheme)
  if !reachable then throw (.stream .refused)
  dial.checkScheme.mapError .dial
  return dial

end WebSocketClient
