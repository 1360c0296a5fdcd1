import WebSocketClient.Link
import WebSocketClient.Proofs.Form

/-!
# Links and the form of a close code

A link meets close codes in the commands of its host, in the code of our own close while its answer
is awaited, and in what it signals.  A link in canonical form makes a move in canonical form as the
link itself makes the move (`Link.step_canonical`), so the forms of the codes in a list of moves are
never found out.  What goes out to the peer is the very same: a code is a number there.
-/

namespace WebSocketClient

set_option autoImplicit false

/-! ## Occurrences -/

/-- A stage with the code of our own close in canonical form. -/
def Stage.canonical : Stage → Stage
  | connecting => connecting
  | talking => talking
  | closing code deadline => closing code.canonical deadline
  | finished => finished
  | lost => lost

/-- An occurrence with its code in canonical form, if it has one. -/
def Occurrence.canonical : Occurrence → Occurrence
  | connected => connected
  | failed failure => failed failure.canonical
  | overheard command => overheard command.canonical
  | arrived arrival writable => arrived arrival writable
  | commanded command result now => commanded command.canonical result now
  | expired => expired

/-- What an occurrence leads to, with the codes in canonical form. -/
def Turn.canonical (turn : Turn) : Turn :=
  { turn with stage := turn.stage.canonical, signals := turn.signals.map Signal.canonical }

/-- What a signal of a close has in canonical form is the code of our own close, if anything. -/
theorem Signal.ofClose_canonical (body : Option Wire.CloseBody) (ours : Option CloseCode) :
    ofClose body (ours.map CloseCode.canonical) = (ofClose body ours).canonical := by
  cases body with
  | none => cases ours <;> rfl
  | some body => simp [ofClose, canonical]

theorem Signal.ofEnd_canonical (ours : Option CloseCode) :
    ofEnd (ours.map CloseCode.canonical) = (ofEnd ours).canonical := by
  cases ours <;> rfl

theorem Signal.ofCut_canonical (ours : Option CloseCode) :
    ofCut (ours.map CloseCode.canonical) = (ofCut ours).canonical := by
  cases ours <;> rfl

namespace Stage

theorem ofClose_canonical (code : CloseCode) (timeout : Option Duration) (now : Instant) :
    ofClose code.canonical timeout now = (ofClose code timeout now).canonical := by
  cases timeout with
  | none => rfl
  | some limit =>
      simp only [ofClose]
      cases now.add? limit <;> rfl

theorem receive_canonical (stage : Stage) (ours : Option CloseCode) (writable : Bool)
    (arrival : Arrival) :
    stage.canonical.receive (ours.map CloseCode.canonical) writable arrival =
      (stage.receive ours writable arrival).canonical := by
  cases arrival with
  | message message =>
      cases message <;>
        simp [receive, Turn.canonical, Signal.canonical, Signal.ofClose_canonical, canonical]
  | ended => simp [receive, Turn.canonical, Signal.ofEnd_canonical, canonical]
  | cut => simp [receive, Turn.canonical, Signal.ofCut_canonical, canonical]
  | fault text => rfl

theorem obey_canonical (timeout : Option Duration) (now : Instant) (command : Command) :
    obey timeout now command.canonical = (obey timeout now command).canonical := by
  cases command with
  | send payload => rfl
  | close code reason =>
      simp only [Command.canonical, obey, Turn.canonical, ofClose_canonical,
        Wire.CloseBody.ofRequest, CloseCode.status_canonical]
      rfl

/-- **An occurrence comes to the same in every form.** -/
theorem take_canonical (timeout : Option Duration) (stage : Stage) (occurrence : Occurrence) :
    stage.canonical.take timeout occurrence.canonical =
      (stage.take timeout occurrence).canonical := by
  cases occurrence with
  | connected => cases stage <;> rfl
  | failed failure => cases stage <;> rfl
  | overheard command => cases stage <;> cases command <;> rfl
  | arrived arrival writable =>
      cases stage with
      | talking => exact receive_canonical talking none writable arrival
      | closing code deadline =>
          exact receive_canonical (closing code deadline) (some code) writable arrival
      | _ => rfl
  | commanded command result now =>
      cases stage with
      | talking =>
          cases result with
          | ok done => exact obey_canonical timeout now command
          | error text => rfl
      | _ => rfl
  | expired =>
      cases stage with
      | closing code deadline => cases deadline <;> rfl
      | _ => rfl

@[simp] theorem keepsQueue_canonical (stage : Stage) :
    stage.canonical.keepsQueue = stage.keepsQueue := by
  cases stage <;> rfl

end Stage

/-! ## Moves -/

/-- A move with its code in canonical form, if it has one. -/
def Move.canonical : Move → Move
  | ask command => ask command.canonical
  | drop => drop
  | connect => connect
  | fail failure => fail failure.canonical
  | overhear => overhear
  | arrive arrival writable => arrive arrival writable
  | obey result now => obey result now
  | expire => expire

namespace Link

/-- A link with all codes in canonical form.  What went out to the peer has numbers only. -/
def canonical (link : Link) : Link :=
  { link with
    lifecycle := link.lifecycle.canonical
    stage := link.stage.canonical
    queue := link.queue.map Command.canonical
    told := link.told.map Notice.canonical }

/-- **A request is answered alike in every form**, and comes to the same. -/
theorem ask_canonical (link : Link) (command : Command) :
    link.canonical.ask command.canonical =
      ((link.ask command).1.mapError Failure.canonical, (link.ask command).2.canonical) := by
  have verdict := Verdict.ofRequest_canonical link.lifecycle.state command
  have state : link.canonical.lifecycle.state = link.lifecycle.state := rfl
  unfold ask
  rw [state, verdict]
  cases Verdict.ofRequest link.lifecycle.state command with
  | refused failure => rfl
  | settled => rfl
  | passed command =>
      simp only [Verdict.canonical, show link.canonical.stage = link.stage.canonical from rfl,
        Stage.keepsQueue_canonical]
      split
      · simp [canonical, Except.mapError]
      · rfl

theorem meet_canonical (timeout : Option Duration) (link : Link) (occurrence : Occurrence) :
    link.canonical.meet timeout occurrence.canonical =
      (link.meet timeout occurrence).canonical := by
  have turn := Stage.take_canonical timeout link.stage occurrence
  have accepted := link.lifecycle.acceptAll_canonical (link.stage.take timeout occurrence).signals
  simp only [meet, canonical, turn, Turn.canonical, accepted, List.map_append]

theorem nextCommand?_canonical (link : Link) : link.canonical.nextCommand? =
    link.nextCommand?.map fun (command, rest) =>
      (command.canonical, rest.map Command.canonical) := by
  obtain ⟨lifecycle, stage, queue, handle, told, sent⟩ := link
  cases queue with
  | nil => cases handle <;> rfl
  | cons command rest => rfl

theorem read_canonical (timeout : Option Duration) (link : Link)
    {occurrence : Command → Occurrence}
    (commutes : ∀ command, (occurrence command).canonical = occurrence command.canonical) :
    link.canonical.read timeout occurrence = (link.read timeout occurrence).canonical := by
  unfold read
  rw [nextCommand?_canonical]
  cases link.nextCommand? with
  | none => rfl
  | some next =>
      obtain ⟨command, rest⟩ := next
      simp only [Option.map_some, ← commutes]
      exact meet_canonical timeout { link with queue := rest } (occurrence command)

/-- **A move comes to the same in every form.** -/
theorem step_canonical (timeout : Option Duration) (link : Link) (move : Move) :
    link.canonical.step timeout move.canonical = (link.step timeout move).canonical := by
  cases move with
  | ask command =>
      have asked := congrArg Prod.snd (link.ask_canonical command)
      simp only [step, Move.canonical, show link.canonical.handle = link.handle from rfl]
      split
      · exact asked
      · rfl
  | drop => rfl
  | connect => exact meet_canonical timeout link .connected
  | fail failure => exact meet_canonical timeout link (.failed failure)
  | overhear =>
      have heard := read_canonical timeout link fun command =>
        (rfl : (Occurrence.overheard command).canonical = .overheard command.canonical)
      simp only [step, Move.canonical, show link.canonical.stage = link.stage.canonical from rfl]
      cases link.stage <;> first | exact heard | rfl
  | arrive arrival writable => exact meet_canonical timeout link (.arrived arrival writable)
  | obey result now =>
      have obeyed := read_canonical timeout link fun command =>
        (rfl : (Occurrence.commanded command result now).canonical =
          .commanded command.canonical result now)
      simp only [step, Move.canonical, show link.canonical.stage = link.stage.canonical from rfl]
      cases link.stage <;> first | exact obeyed | rfl
  | expire => exact meet_canonical timeout link .expired

theorem run_canonical (timeout : Option Duration) (link : Link) (moves : List Move) :
    link.canonical.run timeout (moves.map Move.canonical) = (link.run timeout moves).canonical := by
  induction moves generalizing link with
  | nil => rfl
  | cons move moves ih =>
      have stepped := link.step_canonical timeout move
      simp only [run, List.map_cons, List.foldl_cons, stepped]
      exact ih (link.step timeout move)

/-- Moves that differ in the forms of their codes only lead to links that differ in nothing else. -/
theorem canonical_run_eq {moves others : List Move}
    (same : moves.map Move.canonical = others.map Move.canonical) (timeout : Option Duration)
    (link : Link) : (link.run timeout moves).canonical = (link.run timeout others).canonical := by
  rw [← run_canonical, same, run_canonical]

end Link

end WebSocketClient
