import WebSocketClient.Failure

/-!
# Signals and notices

A transport reports signals: the connection opened, a text message arrived, the connection closed,
or the transport failed.  A host receives notices of the same four kinds, but of a shape made for
it: a failure comes before the close it causes, and a close comes as a complete record.
-/

namespace WebSocketClient

set_option autoImplicit false

/-- What a transport reports about its connection. -/
inductive Signal where
  | opened
  | message (payload : String)
  | closed (code : CloseCode) (reason : String) (remote : Bool)
  | failed (failure : Failure)
deriving DecidableEq, Repr

/-- What a host is told. -/
inductive Notice where
  | opened
  | message (payload : String)
  | failed (failure : Failure)
  | closed (record : CloseRecord)
deriving Repr, BEq

/-- The four kinds of notice. -/
inductive NoticeKind where
  | opened
  | message
  | failed
  | closed
deriving DecidableEq, Repr

namespace Notice

/-- The kind of a notice. -/
def kind : Notice → NoticeKind
  | opened => .opened
  | message _ => .message
  | failed _ => .failed
  | closed _ => .closed

/-- The notice of a close, after which there is nothing more to tell. -/
def isClosing (notice : Notice) : Bool :=
  notice.kind == .closed

end Notice

namespace Signal

/-- A signal after which a transport has nothing more to report. -/
def isTerminal : Signal → Bool
  | closed .. | failed _ => true
  | opened | message _ => false

end Signal

end WebSocketClient
