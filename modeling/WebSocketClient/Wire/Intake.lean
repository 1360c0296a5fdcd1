import WebSocketClient.Settings
import WebSocketClient.Wire.Fragments

/-!
# Reading from the wire

The intake holds the bytes that have come and have not been read, and the fragments of a message
that is not complete.  Reading takes frames off the bytes until they run out or show a fault, and
gives the messages that were completed on the way.  What it gives depends on the bytes alone, not
on the portions in which they come.
-/

namespace WebSocketClient.Wire

set_option autoImplicit false

/-- The reading end of a wire. -/
structure Intake where
  bytes : List UInt8 := []
  fragments : Option Fragments := none
deriving Repr

/-- What reading comes to. -/
structure Haul where
  messages : List Message := []
  fault : Option Fault := none
  /-- What remains to be read, if there is no fault. -/
  rest : Intake
deriving Repr

namespace Intake

/-- Adds bytes that have come. -/
def feed (intake : Intake) (bytes : List UInt8) : Intake :=
  { intake with bytes := intake.bytes ++ bytes }

/-- Reads one frame, if it is there: the message that it completes, and what remains. -/
def next? (limits : Limits) (intake : Intake) : Option (Except Fault (Option Message × Intake)) :=
  match Frame.read limits.frame intake.bytes with
  | .incomplete => none
  | .fault fault => some (.error fault)
  | .frame frame rest =>
    match takeFrame limits.message intake.fragments frame with
    | .error fault => some (.error fault)
    | .ok (message, fragments) => some (.ok (message, ⟨rest, fragments⟩))

/-- Every frame that is read leaves fewer bytes. -/
theorem length_lt_of_next? {limits : Limits} {intake rest : Intake} {message : Option Message}
    (read : intake.next? limits = some (.ok (message, rest))) :
    rest.bytes.length < intake.bytes.length := by
  unfold next? at read
  split at read
  · cases read
  · cases read
  · rename_i frame tail reading
    split at read
    · cases read
    · cases read
      exact Frame.length_lt_of_read reading

/-- Reads all that is there. -/
def readAll (limits : Limits) (intake : Intake) : Haul :=
  match _h : intake.next? limits with
  | none => { rest := intake }
  | some (.error fault) => { fault := some fault, rest := intake }
  | some (.ok (message, rest)) =>
    let haul := readAll limits rest
    { haul with messages := message.toList ++ haul.messages }
termination_by intake.bytes.length
decreasing_by exact length_lt_of_next? (by assumption)

end Intake

end WebSocketClient.Wire
