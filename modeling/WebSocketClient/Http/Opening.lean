import WebSocketClient.Http.Head

/-!
# The answer to the opening request

A server grants a connection by a response that switches protocols and names the key of the
request.  `Opening.ofBytes` says how things stand after the bytes that have come so far.  No more
than the first `maxHead` bytes are looked at; a head that is not complete by then never will be.
-/

namespace WebSocketClient.Http

set_option autoImplicit false

namespace Head

/-- The status of a response that grants a connection. -/
def granting : Nat :=
  101

/-- Whether the first field with a name spells a text. -/
def announces (head : Head) (name text : String) : Bool :=
  match head.value? name with
  | some value => spells value text
  | none => false

/-- Checks that a response can be used at all, and then that it grants the connection; `accept` is
the value that belongs to the key of the request. -/
def check (accept : String) (head : Head) : Except Fault Unit :=
  if head.minor < 1 then .error .oldVersion
  else if head.status < 100 then .error .statusRange
  else if head.status ≠ granting then .error (.denied head.status)
  else if !head.announces "Upgrade" "websocket" then .error .noUpgrade
  else if !head.announces "Connection" "Upgrade" then .error .noConnection
  else if head.value? "Sec-WebSocket-Accept" ≠ some accept.toUTF8.toList then
    .error .keyMismatch
  else if (head.value? "Sec-WebSocket-Protocol").isSome then .error .subprotocol
  else .ok ()

end Head

/-- How an opening handshake stands. -/
inductive Opening where
  | pending
  | failed (fault : Fault)
  /-- The connection is granted; the bytes are the first behind the head. -/
  | granted (rest : List UInt8)
deriving Repr

namespace Opening

/-- The most bytes of a head. -/
def maxHead : Nat :=
  65536

/-- How the handshake stands after some bytes. -/
def ofBytes (accept : String) (bytes : List UInt8) : Opening :=
  match readHead (bytes.take maxHead) with
  | .incomplete => if maxHead < bytes.length then failed .excessive else pending
  | .fault fault => failed fault
  | .done head rest =>
    match head.check accept with
    | .error fault => failed fault
    | .ok () => granted (rest ++ bytes.drop maxHead)

end Opening

end WebSocketClient.Http
