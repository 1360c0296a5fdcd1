import WebSocketClient.Http.Status

/-!
# Faults of the opening handshake

What can be wrong with the response to the opening request, and the wording for a reader.
-/

namespace WebSocketClient.Http

set_option autoImplicit false

/-- What is wrong with a response. -/
inductive Fault where
  /-- A carriage return without a line feed between lines. -/
  | newLine
  | version
  | status
  | fieldName
  | fieldValue
  | tooManyFields
  /-- The version is in order but too old. -/
  | oldVersion
  /-- The status code has three digits but is no status code. -/
  | statusRange
  | unfinished
  | excessive
  | denied (code : Nat)
  | noUpgrade
  | noConnection
  | keyMismatch
  | subprotocol
deriving DecidableEq, Repr

namespace Fault

/-- The wording of a head that cannot be read. -/
def unreadable (text : String) : String :=
  "WebSocket protocol error: httparse error: " ++ text

/-- The wording of a head that grants no connection. -/
def breach (text : String) : String :=
  "WebSocket protocol error: " ++ text

/-- The wording for a reader. -/
def message : Fault → String
  | newLine => unreadable "invalid new line"
  | version => unreadable "invalid HTTP version"
  | status => unreadable "invalid response status"
  | fieldName => unreadable "invalid header name"
  | fieldValue => unreadable "invalid header value"
  | tooManyFields => unreadable "too many headers"
  | oldVersion => breach "HTTP version must be 1.1 or higher"
  | statusRange => "HTTP format error: invalid status code"
  | unfinished => breach "Handshake not finished"
  | excessive => "Attack attempt detected"
  | denied code => "HTTP error: " ++ statusText code
  | noUpgrade => breach "No \"Upgrade: websocket\" header"
  | noConnection => breach "No \"Connection: upgrade\" header"
  | keyMismatch => breach "Key mismatch in \"Sec-WebSocket-Accept\" header"
  | subprotocol =>
    breach "SubProtocol error: Server sent a subprotocol but none was requested"

end Fault

end WebSocketClient.Http
