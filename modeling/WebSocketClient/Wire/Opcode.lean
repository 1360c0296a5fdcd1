/-!
# Opcodes

The opcode of a frame is a number of four bits.  Six of the sixteen numbers have a meaning; half
of all numbers, from 8 on, belong to control frames.
-/

namespace WebSocketClient.Wire

set_option autoImplicit false

/-- The meaning of a frame. -/
inductive Opcode where
  | continuation
  | text
  | binary
  | close
  | ping
  | pong
deriving DecidableEq, Repr

namespace Opcode

/-- The number that stands for a meaning. -/
def number : Opcode → Fin 16
  | continuation => ⟨0, by decide⟩
  | text => ⟨1, by decide⟩
  | binary => ⟨2, by decide⟩
  | close => ⟨8, by decide⟩
  | ping => ⟨9, by decide⟩
  | pong => ⟨10, by decide⟩

/-- The meaning of a number, if it has one. -/
def ofNumber? : Fin 16 → Option Opcode
  | 0 => some continuation
  | 1 => some text
  | 2 => some binary
  | 8 => some close
  | 9 => some ping
  | 10 => some pong
  | _ => none

theorem ofNumber?_number (opcode : Opcode) : ofNumber? opcode.number = some opcode := by
  cases opcode <;> rfl

end Opcode

end WebSocketClient.Wire
