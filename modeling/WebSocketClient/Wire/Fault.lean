import WebSocketClient.Utf8

/-!
# Faults on the wire

What a peer can do wrong in its frames, and the wording for a reader.  Breaches of the protocol,
lengths beyond a limit and texts that are no UTF-8 each have a wording of their own.
-/

namespace WebSocketClient.Wire

set_option autoImplicit false

/-- The kinds of message that may come in several frames. -/
inductive Kind where
  | text
  | binary
deriving DecidableEq, Repr

/-- What is wrong with the frames of a peer.  A text is unfinished if its last fragment ends within
the given character. -/
inductive Fault where
  | invalidOpcode (number : Nat)
  | tooLong (size limit : Nat)
  | reservedBits
  | maskedFrame
  | fragmentedControl
  | controlTooLong
  | shortClose
  | nothingToContinue
  | interrupted (kind : Kind)
  | invalidText (fault : Utf8.Fault)
  | invalidFragment
  | unfinishedText (pending : List UInt8)
deriving DecidableEq, Repr

namespace Fault

/-- The name of a kind of message in the wording of a fault. -/
def kindText : Kind → String
  | .text => "TEXT"
  | .binary => "BINARY"

/-- The bytes of an unfinished character with their number; it has room for four bytes, and those
not used are zero. -/
def unfinishedCharacter (pending : List UInt8) : String :=
  let room := pending ++ List.replicate (4 - pending.length) 0
  "Incomplete \x7b buffer: [" ++ ", ".intercalate (room.map fun byte => toString byte.toNat)
    ++ "], buffer_len: " ++ toString pending.length ++ " \x7d"

/-- The wording of a breach of the protocol. -/
def breach (text : String) : String :=
  "WebSocket protocol error: " ++ text

/-- The wording of a text that is no UTF-8. -/
def badEncoding (text : String) : String :=
  "UTF-8 encoding error: " ++ text

/-- The wording for a reader. -/
def message : Fault → String
  | invalidOpcode number => breach ("Encountered invalid opcode: " ++ toString number)
  | tooLong size limit =>
    "Space limit exceeded: Message too long: " ++ toString size ++ " > " ++ toString limit
  | reservedBits => breach "Reserved bits are non-zero"
  | maskedFrame => breach "Received a masked frame from server"
  | fragmentedControl => breach "Fragmented control frame"
  | controlTooLong => breach "Control frame too big (payload must be 125 bytes or less)"
  | shortClose => breach "Invalid close sequence"
  | nothingToContinue => breach "Continue frame but nothing to continue"
  | interrupted kind => breach ("While waiting for more fragments received: " ++ kindText kind)
  | invalidText fault => badEncoding fault.message
  | invalidFragment => badEncoding "\uFFFD"
  | unfinishedText pending => badEncoding ("incomplete string: " ++ unfinishedCharacter pending)

end Fault

end WebSocketClient.Wire
