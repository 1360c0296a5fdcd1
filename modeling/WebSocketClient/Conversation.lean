import WebSocketClient.Notice
import WebSocketClient.Request
import WebSocketClient.Wire.Reply

/-!
# The conversation of a transport

The transport of a connection carries on one conversation: it connects, talks, perhaps sends a
close and waits for the answer, and is over.  What happens to it are occurrences: the opening
handshake succeeds or fails, something arrives, a command is read from the queue, a deadline
passes.  `Stage.take` says what one occurrence leads to: the next stage, the signals that are
reported, and the messages that go out.

The code of our own close belongs to the stage.  It decides whose close it was, and stands in for
the status that the answer of the peer may lack.  While our close waits for its answer, no more
commands are read.

The deadline of the closing handshake is a point on the clock.  When the clock cannot show it, the
conversation breaks off without reporting anything.
-/

namespace WebSocketClient

set_option autoImplicit false

/-! ## Stages and occurrences -/

/-- How far a conversation has come.  It is closing while the answer to our own close is awaited,
and lost if it broke off without a word. -/
inductive Stage where
  | connecting
  | talking
  | closing (code : CloseCode) (deadline : Option Instant)
  | finished
  | lost
deriving Repr

/-- What can arrive from the peer.  A stream has ended if it is reported as closed, and is cut if it
ended without a closing handshake. -/
inductive Arrival where
  | message (message : Wire.Message)
  | ended
  | cut
  | fault (text : String)
deriving DecidableEq, Repr

/-- What can happen to a conversation.  A command is overheard if it is read while the handshake is
under way.  Whether a message can be written, in reply or for a command, is decided outside. -/
inductive Occurrence where
  | connected
  | failed (failure : Failure)
  | overheard (command : Command)
  | arrived (arrival : Arrival) (writable : Bool)
  | commanded (command : Command) (result : Except String Unit) (now : Instant)
  | expired
deriving Repr

/-- A message that goes out: one that was asked for, or a reply that the protocol asks for. -/
inductive Outgoing where
  | asked (message : Wire.Message)
  | reply (message : Wire.Message)
deriving DecidableEq, Repr

/-- The message that goes out. -/
def Outgoing.message : Outgoing → Wire.Message
  | asked message => message
  | reply message => message

/-- What an occurrence leads to. -/
structure Turn where
  stage : Stage
  signals : List Signal := []
  sent : List Outgoing := []
deriving Repr

/-! ## Closes -/

/-- The stage after our own close was sent. -/
def Stage.ofClose (code : CloseCode) (timeout : Option Duration) (now : Instant) : Stage :=
  match timeout with
  | none => closing code none
  | some limit =>
    match now.add? limit with
    | some deadline => closing code (some deadline)
    | none => lost

/-- The body of our close frame. -/
def Wire.CloseBody.ofRequest (code : CloseCode) (reason : String) : Wire.CloseBody :=
  ⟨code.status, reason⟩

/-- The signal of a close frame from the peer; `ours` is the code of our own close. -/
def Signal.ofClose (body : Option Wire.CloseBody) (ours : Option CloseCode) : Signal :=
  match body, ours with
  | some body, _ => .closed (.ofStatus body.status) body.reason ours.isNone
  | none, some code => .closed code "" false
  | none, none => .closed .noStatus "" true

/-- The signal of a stream that is reported as closed. -/
def Signal.ofEnd (ours : Option CloseCode) : Signal :=
  match ours with
  | some code => .closed code "" false
  | none => .closed .abnormal "connection ended" true

/-- The signal of a stream that ended without a closing handshake. -/
def Signal.ofCut (ours : Option CloseCode) : Signal :=
  .closed .abnormal "connection reset without closing handshake" ours.isNone

/-- The signal of a deadline that has passed. -/
def Signal.ofExpiry : Signal :=
  .closed .abnormal "close handshake timed out" false

/-- The signal of a close that came before the connection. -/
def Signal.ofWithdrawal : Signal :=
  .closed .neverConnected "closed before the connection was established" false

/-! ## One occurrence -/

namespace Stage

/-- Whether the queue of commands still exists. -/
def keepsQueue : Stage → Bool
  | finished | lost => false
  | connecting | talking | closing .. => true

/-- Nothing happens. -/
def idle (stage : Stage) : Turn :=
  { stage }

/-- Something arrives after the handshake; `ours` is the code of our own close. -/
def receive (stage : Stage) (ours : Option CloseCode) (writable : Bool) : Arrival → Turn
  | .message message =>
    let replies :=
      if writable && ours.isNone then message.reply?.toList.map Outgoing.reply else []
    match message with
    | .text payload => { stage, signals := [.message payload], sent := replies }
    | .close body => { stage := finished, signals := [.ofClose body ours], sent := replies }
    | _ => { stage, sent := replies }
  | .ended => { stage := finished, signals := [.ofEnd ours] }
  | .cut => { stage := finished, signals := [.ofCut ours] }
  | .fault text => { stage := finished, signals := [.failed (.transport text)] }

/-- A command is read while talking, and its message is written. -/
def obey (timeout : Option Duration) (now : Instant) : Command → Turn
  | .send payload => { stage := talking, sent := [.asked (.text payload)] }
  | .close code reason =>
    { stage := ofClose code timeout now
      sent := [.asked (.close (some (.ofRequest code reason)))] }

/-- What an occurrence leads to; one that cannot happen in a stage leaves it as it is. -/
def take (timeout : Option Duration) : Stage → Occurrence → Turn
  | connecting, .connected => { stage := talking, signals := [.opened] }
  | connecting, .failed failure => { stage := finished, signals := [.failed failure] }
  | connecting, .overheard (.close _ _) => { stage := finished, signals := [.ofWithdrawal] }
  | talking, .arrived arrival writable => receive talking none writable arrival
  | closing code deadline, .arrived arrival writable =>
    receive (closing code deadline) (some code) writable arrival
  | talking, .commanded command (.ok ()) now => obey timeout now command
  | talking, .commanded _ (.error text) _ =>
    { stage := finished, signals := [.failed (.transport text)] }
  | closing _ (some _), .expired => { stage := finished, signals := [.ofExpiry] }
  | stage, _ => idle stage

end Stage

end WebSocketClient
