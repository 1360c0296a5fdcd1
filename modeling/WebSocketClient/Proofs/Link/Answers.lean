import WebSocketClient.Proofs.Link.History

/-!
# What the host of a link is answered

The queue belongs to the transport, and a transport that is gone takes no commands.  The host never
finds out.  The transport gives up the queue only when the connection is closed already
(`Link.served_run`), and a closed connection passes nothing on.  So every request is answered
by its verdict (`Link.Served.answer_ask`), and the failure of a transport that takes no more
commands is none of the answers.

A move reports first and goes on to its next stage afterwards.  A host that asks in between, say
from inside a callback, is answered as it will be after the move, and its command gets into the same
queue (`Link.ask_midway`).

All this is about transports that do not break off.  One that does is at a stage of its own, where
the connection is open and the queue is gone.
-/

namespace WebSocketClient

set_option autoImplicit false

/-! ## Verdicts and answers -/

namespace Verdict

/-- The answer to a request, if the transport takes what it is asked. -/
def answer : Verdict → Except Failure Unit
  | refused failure => .error failure
  | settled | passed _ => .ok ()

/-- A request is never answered with the failure of a transport that takes no commands. -/
theorem answer_ne (state : ReadyState) (command : Command) :
    (ofRequest state command).answer ≠ .error .connectionClosed := by
  cases command with
  | send payload =>
      simp only [ofRequest, ofSend]
      split <;> simp [answer]
  | close code reason =>
      simp only [ofRequest, ofClose]
      split
      · simp [answer]
      · split
        · simp [answer]
        · split <;> simp [answer]

theorem answer_send (state : ReadyState) (payload : String) :
    (ofRequest state (.send payload)).answer =
      if state = .opened then .ok () else .error (.notOpen state) := by
  cases state <;> rfl

/-- A close is answered by its arguments, whatever the state. -/
theorem answer_close (state : ReadyState) (code : CloseCode) (reason : String) :
    (ofRequest state (.close code reason)).answer =
      if code.isValid = false then .error (.invalidCloseCode code.number)
      else if maxReason < reason.utf8ByteSize then
        .error (.closeReasonTooLong reason.utf8ByteSize maxReason)
      else .ok () := by
  simp only [ofRequest, ofClose, Bool.not_eq_true']
  split
  · rfl
  · split
    · rfl
    · split <;> rfl

end Verdict

/-- The last thing that the host is told in a story is its close. -/
theorem Story.getLast?_told {signals : List Signal} {told : List Notice} {farewell : Farewell}
    (story : Story signals told farewell) : told.getLast? = some (.closed farewell.record) := by
  cases story with
  | withdrawn reason => rfl
  | failed failure => rfl
  | parted payloads ends => rw [Farewell.notices, ← List.append_assoc, List.getLast?_concat]

namespace Link

variable {timeout : Option Duration}

/-! ## The queue and the state -/

/-- The queue is given up only when the connection is closed. -/
def Served (link : Link) : Prop :=
  link.stage.keepsQueue = false → link.lifecycle.state = .closed

/-- **A transport that does not break off keeps its queue until the connection is closed.** -/
theorem served_run {moves : List Move} (intact : (({} : Link).run timeout moves).stage ≠ .lost) :
    Served (({} : Link).run timeout moves) := by
  intro ended
  rcases standing_run timeout moves with
    ⟨connecting, -⟩ | ⟨-, stage_open, -⟩ | ⟨-, -, lifecycle⟩
  · rw [connecting] at ended
    cases ended
  · generalize (({} : Link).run timeout moves).stage = stage at *
    cases stage with
    | lost => exact absurd rfl intact
    | connecting => cases stage_open
    | finished => cases stage_open
    | talking => cases ended
    | closing code deadline => cases ended
  · rw [lifecycle]

/-- A connection that has a queue is not closed. -/
theorem keepsQueue_eq_false_of_closed {moves : List Move}
    (closed : (({} : Link).run timeout moves).lifecycle.state = .closed) :
    (({} : Link).run timeout moves).stage.keepsQueue = false := by
  rcases standing_run timeout moves with
    ⟨-, -, lifecycle, -⟩ | ⟨-, -, -, lifecycle, -⟩ | ⟨finished, -⟩
  · rw [lifecycle] at closed
    cases closed
  · rw [lifecycle] at closed
    cases closed
  · rw [finished]
    rfl

namespace Served

variable {link : Link}

/-- What is passed on finds a queue. -/
theorem keepsQueue (served : Served link) {asked command : Command}
    (passed : Verdict.ofRequest link.lifecycle.state asked = .passed command) :
    link.stage.keepsQueue = true := by
  refine eq_true_of_ne_false ?_
  intro ended
  rw [served ended] at passed
  exact Verdict.ofRequest_closed_ne asked command passed

/-- **A request is answered by its verdict.** -/
theorem answer_ask (served : Served link) (command : Command) :
    (link.ask command).1 = (Verdict.ofRequest link.lifecycle.state command).answer := by
  unfold ask
  split
  · rename_i verdict
    rw [verdict]
    rfl
  · rename_i verdict
    rw [verdict]
    rfl
  · rename_i verdict
    rw [if_pos (served.keepsQueue verdict), verdict]
    rfl

end Served

/-! ## In the middle of a move -/

/-- A link in the middle of a move: what the move signals was passed on, and the conversation is
still at the stage that it comes from. -/
def midway (timeout : Option Duration) (link : Link) (move : Move) : Link :=
  { link.step timeout move with stage := link.stage }

/-- In the middle of a move the queue is still there, unless the connection was closed before. -/
theorem Served.midway {link : Link} (served : Served link) (move : Move) :
    Served (link.midway timeout move) := by
  intro ended
  have gone : link.stage.keepsQueue = false := ended
  have took := took_step timeout link move
  rw [turn_of_ended gone] at took
  exact (congrArg Lifecycle.state took.lifecycle_eq).trans (served gone)

/-- **Asking in the middle of a move is asking after it.** -/
theorem ask_midway {link : Link} {move : Move} (before : Served link)
    (after : Served (link.step timeout move)) (command : Command) :
    ((link.midway timeout move).ask command).1 = ((link.step timeout move).ask command).1 ∧
      { ((link.midway timeout move).ask command).2 with
        stage := (link.step timeout move).stage } = ((link.step timeout move).ask command).2 := by
  refine ⟨((before.midway move).answer_ask command).trans (after.answer_ask command).symm, ?_⟩
  cases verdict : Verdict.ofRequest (link.step timeout move).lifecycle.state command with
  | refused failure => simp only [ask, midway, verdict]
  | settled => simp only [ask, midway, verdict]
  | passed same =>
      have kept : link.stage.keepsQueue = true := (before.midway move).keepsQueue verdict
      simp only [ask, midway, verdict, kept, after.keepsQueue verdict, if_true]

/-- **What a host is answered.**  After any run of a transport that did not break off, a message is
taken or refused for the state of the connection, a normal close is taken, another close is taken or
refused for its arguments, and nothing is answered with the failure of a transport that takes no
commands: the queue is gone exactly when the connection is closed.  In the middle of a move, when it
has been reported and the queue is still there, a host is answered as it is after the move, and what
it asks for comes to the same.  Once the conversation is over, the connection is closed with the
record that the host was told last, every message is refused, and a close has nothing left to
do. -/
theorem answers_of_run (timeout : Option Duration) (moves : List Move)
    (intact : (({} : Link).run timeout moves).stage ≠ .lost) :
    let link := ({} : Link).run timeout moves
    (∀ payload, (link.ask (.send payload)).1 =
      if link.lifecycle.state = .opened then .ok () else .error (.notOpen link.lifecycle.state)) ∧
    (link.ask .normalClose).1 = .ok () ∧
    (∀ code reason, (link.ask (.close code reason)).1 =
      if code.isValid = false then .error (.invalidCloseCode code.number)
      else if Verdict.maxReason < reason.utf8ByteSize then
        .error (.closeReasonTooLong reason.utf8ByteSize Verdict.maxReason)
      else .ok ()) ∧
    (∀ command, (link.ask command).1 ≠ .error .connectionClosed) ∧
    (link.stage.keepsQueue = false ↔ link.lifecycle.state = .closed) ∧
    (∀ move, (link.step timeout move).stage ≠ .lost →
      let middle := link.midway timeout move
      let after := link.step timeout move
      (middle.stage.keepsQueue = false → middle.lifecycle.state = .closed) ∧
      ∀ command, (middle.ask command).1 = (after.ask command).1 ∧
        (middle.ask command).1 ≠ .error .connectionClosed ∧
        { (middle.ask command).2 with stage := after.stage } = (after.ask command).2) ∧
    (link.stage = .finished →
      ∃ record, link.lifecycle = ⟨.closed, some record⟩ ∧
        link.told.getLast? = some (.closed record) ∧
        (∀ payload, (link.ask (.send payload)).1 = .error (.notOpen .closed)) ∧
        ∀ command, (link.ask command).2 = link) := by
  intro link
  have served : Served link := served_run intact
  refine ⟨?_, ?_, ?_, ?_, ⟨served, keepsQueue_eq_false_of_closed⟩, ?_, ?_⟩
  · intro payload
    rw [served.answer_ask, Verdict.answer_send]
  · rw [served.answer_ask, Command.normalClose, Verdict.answer_close]
    rfl
  · intro code reason
    rw [served.answer_ask, Verdict.answer_close]
  · intro command
    rw [served.answer_ask]
    exact Verdict.answer_ne _ command
  · intro move going middle after
    have next : Served after := by
      have run_eq : after = ({} : Link).run timeout (moves ++ [move]) := (run_concat ..).symm
      rw [run_eq]
      refine served_run ?_
      rw [← run_eq]
      exact going
    have between : Served middle := served.midway move
    refine ⟨between, ?_⟩
    intro command
    obtain ⟨answer, same⟩ := ask_midway served next command
    refine ⟨answer, ?_, same⟩
    rw [between.answer_ask]
    exact Verdict.answer_ne _ command
  · intro finished
    obtain ⟨farewell, story, lifecycle⟩ := (standing_run timeout moves).of_finished finished
    refine ⟨farewell.record, lifecycle, story.getLast?_told, ?_, ?_⟩
    · intro payload
      rw [served.answer_ask, Verdict.answer_send,
        show link.lifecycle = _ from lifecycle, if_neg ReadyState.noConfusion]
    · intro command
      exact ask_of_ended (by rw [show link.stage = _ from finished]; rfl) command

/-- A host that asks on after the peer has closed. -/
theorem answers_of_late_host :
    let moves : List Move := [.connect, .ask (.send "hello"), .ask .normalClose,
      .obey (.ok ()) .origin, .arrive (.message (.close none)) true]
    let link := ({} : Link).run none moves
    link.stage ≠ .lost ∧ (link.ask (.send "late")).1 = .error (.notOpen .closed) ∧
      (link.ask .normalClose).1 = .ok () ∧
      (link.ask (.close .noStatus "")).1 = .error (.invalidCloseCode 1005) := by
  intro moves link
  have intact : link.stage ≠ .lost := Stage.noConfusion
  obtain ⟨sends, normal, closes, -⟩ := answers_of_run none moves intact
  exact ⟨intact, sends "late", normal, closes .noStatus ""⟩

end Link

end WebSocketClient
