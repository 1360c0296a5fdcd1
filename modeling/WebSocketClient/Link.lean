import WebSocketClient.Conversation
import WebSocketClient.Lifecycle
import WebSocketClient.Settings

/-!
# Links

A link is a connection with its transport: the lifecycle that the host sees, the conversation with
the peer, and the queue of commands between the two.  It runs by moves.  The host asks for
something or drops its handle; the transport lets its conversation meet an occurrence, and what is
signalled passes through the lifecycle at once.

Moves can come in any order.  A move that is not possible leaves the link as it is: a command can
only be read if there is one, or if the handle was dropped, which reads as a request for a normal
close behind all others.
-/

namespace WebSocketClient

set_option autoImplicit false

/-- A connection with its transport, and the queue of commands between them. -/
structure Link where
  lifecycle : Lifecycle := {}
  stage : Stage := .connecting
  queue : List Command := []
  handle : Bool := true
  told : List Notice := []
  sent : List Outgoing := []
deriving Repr

/-- A move of the host or of the transport. -/
inductive Move where
  | ask (command : Command)
  | drop
  | connect
  | fail (failure : Failure)
  /-- The transport reads a command while it is connecting. -/
  | overhear
  | arrive (arrival : Arrival) (writable : Bool)
  /-- The transport reads a command while it is talking. -/
  | obey (result : Except String Unit) (now : Instant)
  | expire
deriving Repr

namespace Link

/-! ## The host -/

/-- A request of the host: its answer, and the link after it. -/
def ask (link : Link) (command : Command) : Except Failure Unit × Link :=
  match Verdict.ofRequest link.lifecycle.state command with
  | .refused failure => (.error failure, link)
  | .settled => (.ok (), link)
  | .passed command =>
    if link.stage.keepsQueue then (.ok (), { link with queue := link.queue ++ [command] })
    else (.error .connectionClosed, link)

/-! ## The transport -/

/-- The next command and the queue behind it.  Once the handle is dropped the queue ends with a
normal close. -/
def nextCommand? (link : Link) : Option (Command × List Command) :=
  match link.queue with
  | command :: rest => some (command, rest)
  | [] => if link.handle then none else some (.normalClose, [])

/-- The conversation meets an occurrence. -/
def meet (timeout : Option Duration) (link : Link) (occurrence : Occurrence) : Link :=
  let turn := link.stage.take timeout occurrence
  let (lifecycle, notices) := link.lifecycle.acceptAll turn.signals
  { link with
    lifecycle
    stage := turn.stage
    told := link.told ++ notices
    sent := link.sent ++ turn.sent }

/-- The transport reads the next command, if there is one. -/
def read (timeout : Option Duration) (link : Link) (occurrence : Command → Occurrence) : Link :=
  match link.nextCommand? with
  | none => link
  | some (command, rest) => meet timeout { link with queue := rest } (occurrence command)

/-! ## Moves -/

/-- The effect of a move; `timeout` is the time limit of the closing handshake. -/
def step (timeout : Option Duration) (link : Link) : Move → Link
  | .ask command => if link.handle then (link.ask command).2 else link
  | .drop => { link with handle := false }
  | .connect => link.meet timeout .connected
  | .fail failure => link.meet timeout (.failed failure)
  | .overhear =>
    match link.stage with
    | .connecting => link.read timeout .overheard
    | _ => link
  | .arrive arrival writable => link.meet timeout (.arrived arrival writable)
  | .obey result now =>
    match link.stage with
    | .talking => link.read timeout fun command => .commanded command result now
    | _ => link
  | .expire => link.meet timeout .expired

/-- The effect of several moves. -/
def run (timeout : Option Duration) (link : Link) (moves : List Move) : Link :=
  moves.foldl (step timeout) link

end Link

end WebSocketClient
