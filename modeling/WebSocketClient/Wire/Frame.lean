import WebSocketClient.Wire.Fault
import WebSocketClient.Wire.Header
import WebSocketClient.Wire.Opcode

/-!
# Frames

A frame is read in one piece: nothing comes of it before its last byte is there.  Two faults are
found as soon as the header is there, an opcode without a meaning and a payload longer than the
limit, so that no payload has to be waited for that would be refused anyway.
-/

namespace WebSocketClient.Wire

set_option autoImplicit false

/-- A frame with an opcode that has a meaning. -/
structure Frame where
  fin : Bool := true
  reserved : Fin 8 := noBits
  opcode : Opcode
  masked : Bool := false
  payload : List UInt8 := []
deriving DecidableEq, Repr

namespace Frame

/-- The header of a frame. -/
def header (frame : Frame) : Header :=
  { fin := frame.fin
    reserved := frame.reserved
    opcode := frame.opcode.number
    masked := frame.masked
    length := frame.payload.length }

/-- The bytes of a frame. -/
def encode (frame : Frame) : List UInt8 :=
  frame.header.encode ++ frame.payload

/-- What the bytes at hand come to. -/
inductive Reading where
  /-- The bytes end within a frame that may still be in order. -/
  | incomplete
  | fault (fault : Fault)
  | frame (frame : Frame) (rest : List UInt8)
deriving Repr

/-- Reads the payload that belongs to a header. -/
def readPayload (limit : Nat) (header : Header) (bytes : List UInt8) : Reading :=
  match Opcode.ofNumber? header.opcode with
  | none => .fault (.invalidOpcode header.opcode.val)
  | some opcode =>
    if limit < header.length then .fault (.tooLong header.length limit)
    else if bytes.length < header.length then .incomplete
    else
      .frame
        { fin := header.fin
          reserved := header.reserved
          opcode := opcode
          masked := header.masked
          payload := bytes.take header.length }
        (bytes.drop header.length)

/-- Reads one frame whose payload is no longer than the limit. -/
def read (limit : Nat) (bytes : List UInt8) : Reading :=
  match Header.read? bytes with
  | none => .incomplete
  | some (header, rest) => readPayload limit header rest

/-- What follows a frame is shorter than the whole. -/
theorem length_lt_of_read {limit : Nat} {bytes rest : List UInt8} {frame : Frame}
    (reading : read limit bytes = .frame frame rest) : rest.length < bytes.length := by
  unfold read at reading
  split at reading
  · cases reading
  · rename_i header tail found
    have shorter := Header.length_lt_of_read? found
    unfold readPayload at reading
    split at reading
    · cases reading
    · split at reading
      · cases reading
      · split at reading
        · cases reading
        · cases reading
          simp only [List.length_drop]
          omega

/-- A frame that was read is no longer than the limit. -/
theorem length_payload_le_of_read {limit : Nat} {bytes rest : List UInt8} {frame : Frame}
    (reading : read limit bytes = .frame frame rest) : frame.payload.length ≤ limit := by
  unfold read at reading
  split at reading
  · cases reading
  · unfold readPayload at reading
    split at reading
    · cases reading
    · split at reading
      · cases reading
      · split at reading
        · cases reading
        · cases reading
          simp only [List.length_take]
          omega

end Frame

end WebSocketClient.Wire
