import WebSocketClient.Wire.Message

/-!
# Messages in several frames

A text or a binary message may come in several frames, with control frames in between.  The frames
of it that have come are its fragments.  Every data frame counts towards the limit on messages
before anything is made of it.

A text is decoded fragment by fragment, so that a fault is found in the fragment that has it.  A
fragment may end within a character; the bytes of that character wait for the next fragment, and
none may be left after the last one.
-/

namespace WebSocketClient.Wire

set_option autoImplicit false

/-- The part of a message that has come. -/
inductive Fragments where
  /-- A text so far, and the bytes of a character that is not complete. -/
  | text (start : String) (pending : List UInt8)
  | binary (start : List UInt8)
deriving DecidableEq, Repr

namespace Fragments

/-- A message of which nothing has come. -/
def empty : Kind → Fragments
  | .text => text "" []
  | .binary => binary []

/-- The number of bytes that have come. -/
def size : Fragments → Nat
  | text start pending => start.utf8ByteSize + pending.length
  | binary start => start.length

/-- Adds the payload of a fragment to a text. -/
def extendText (start : String) (pending payload : List UInt8) : Except Fault Fragments :=
  let scan := Utf8.scan (pending ++ payload)
  match scan.fault with
  | some ⟨_, some _⟩ => .error .invalidFragment
  | _ => .ok (text (start ++ String.ofList scan.chars) scan.rest)

/-- Adds the payload of a fragment. -/
def extend (limit : Nat) (fragments : Fragments) (payload : List UInt8) :
    Except Fault Fragments :=
  if limit < fragments.size + payload.length then
    .error (.tooLong (fragments.size + payload.length) limit)
  else
    match fragments with
    | text start pending => extendText start pending payload
    | binary start => .ok (binary (start ++ payload))

/-- The message, when its last fragment has come. -/
def complete : Fragments → Except Fault Message
  | text start [] => .ok (.text start)
  | text _ pending => .error (.unfinishedText pending)
  | binary start => .ok (.binary start)

end Fragments

namespace Message

/-- A message in a single frame. -/
def ofPayload (limit : Nat) (kind : Kind) (payload : List UInt8) : Except Fault Message :=
  if limit < payload.length then .error (.tooLong payload.length limit)
  else
    match kind with
    | .text =>
      match Utf8.decode payload with
      | .ok decoded => .ok (text decoded)
      | .error fault => .error (.invalidText fault)
    | .binary => .ok (binary payload)

/-- The longest payload of a control frame. -/
def maxControl : Nat :=
  125

/-- The message of a control frame, from its opcode and payload. -/
def ofControl (frame : Frame) (message : Except Fault Message) : Except Fault Message :=
  if !frame.fin then .error .fragmentedControl
  else if maxControl < frame.payload.length then .error .controlTooLong
  else message

end Message

/-! ## Taking frames in -/

/-- What a frame comes to: the message it completes, and the message that is still incomplete. -/
abbrev Taken := Option Message × Option Fragments

/-- A fragment, added to those before it. -/
def takeFragment (limit : Nat) (fragments : Fragments) (frame : Frame) : Except Fault Taken := do
  let extended ← fragments.extend limit frame.payload
  if frame.fin then
    let message ← extended.complete
    return (some message, none)
  else return (none, some extended)

/-- A frame that begins a message. -/
def takeFirst (limit : Nat) (kind : Kind) (fragments : Option Fragments) (frame : Frame) :
    Except Fault Taken :=
  match fragments with
  | some _ => .error (.interrupted kind)
  | none =>
    if frame.fin then do
      let message ← Message.ofPayload limit kind frame.payload
      return (some message, none)
    else takeFragment limit (.empty kind) frame

/-- A control frame, which leaves an incomplete message as it is. -/
def takeControl (fragments : Option Fragments) (frame : Frame) (message : Except Fault Message) :
    Except Fault Taken := do
  let message ← Message.ofControl frame message
  return (some message, fragments)

/-- Takes in a frame. -/
def takeFrame (limit : Nat) (fragments : Option Fragments) (frame : Frame) :
    Except Fault Taken :=
  if frame.reserved ≠ noBits then .error .reservedBits
  else if frame.masked then .error .maskedFrame
  else
    match frame.opcode with
    | .continuation =>
      match fragments with
      | none => .error .nothingToContinue
      | some fragments => takeFragment limit fragments frame
    | .text => takeFirst limit .text fragments frame
    | .binary => takeFirst limit .binary fragments frame
    | .ping => takeControl fragments frame (.ok (.ping frame.payload))
    | .pong => takeControl fragments frame (.ok (.pong frame.payload))
    | .close => takeControl fragments frame ((CloseBody.decode frame.payload).map .close)

end WebSocketClient.Wire
