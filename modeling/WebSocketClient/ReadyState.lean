/-!
# Ready states

A connection is connecting, open, closing or closed, numbered 0 to 3 in that order.  It only ever
moves forward, and `canBecome` lists the moves: connecting may become open or closed, open may
become closing or closed, and closing becomes closed.
-/

namespace WebSocketClient

set_option autoImplicit false

/-- The stage a connection has reached. -/
inductive ReadyState where
  | connecting
  | opened
  | closing
  | closed
deriving DecidableEq, Repr

namespace ReadyState

instance : Inhabited ReadyState := ⟨connecting⟩

/-- The position of a state in the order of stages. -/
def number : ReadyState → Nat
  | connecting => 0
  | opened => 1
  | closing => 2
  | closed => 3

/-- The state at a position; every position past the last is closed. -/
def ofNumber : Nat → ReadyState
  | 0 => connecting
  | 1 => opened
  | 2 => closing
  | _ => closed

instance : Ord ReadyState := ⟨fun a b => compare a.number b.number⟩

/-- A connection that can still report something. -/
def isActive (state : ReadyState) : Bool :=
  state != closed

/-- A connection that takes outgoing messages. -/
def canSend (state : ReadyState) : Bool :=
  state == opened

/-- The moves that a connection can make. -/
def canBecome : ReadyState → ReadyState → Bool
  | connecting, opened => true
  | connecting, closed => true
  | opened, closing => true
  | opened, closed => true
  | closing, closed => true
  | _, _ => false

/-- All states in order. -/
def all : List ReadyState :=
  [connecting, opened, closing, closed]

/-- The states that a state can become, in order. -/
def next (state : ReadyState) : List ReadyState :=
  all.filter state.canBecome

/-- The name of a state. -/
def text : ReadyState → String
  | connecting => "Connecting"
  | opened => "Open"
  | closing => "Closing"
  | closed => "Closed"

theorem ofNumber_number (state : ReadyState) : ofNumber state.number = state := by
  cases state <;> rfl

/-- Every move goes forward. -/
theorem number_lt_of_canBecome {a b : ReadyState} (move : a.canBecome b = true) :
    a.number < b.number := by
  cases a <;> cases b <;> first | decide | exact absurd move (by decide)

end ReadyState

end WebSocketClient
