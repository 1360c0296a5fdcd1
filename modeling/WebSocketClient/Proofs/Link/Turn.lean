import WebSocketClient.Link
import WebSocketClient.Proofs.Lifecycle

/-!
# The signals of a link

A link keeps what its host was told, but not what its transport signalled.  This module brings the
signals back.  A move makes at most one thing happen to the conversation (`Link.occurrence?`), and
what the conversation makes of it is a turn (`Link.turn`).  The signals of a run are those of its
turns (`Link.signals`).

Between the signals and the host stands the lifecycle, and it stands there for the whole run: what
the host of a link has been told is what a fresh lifecycle tells for all the signals so far
(`Link.Relayed`).
-/

namespace WebSocketClient.Link

set_option autoImplicit false

/-! ## Reading a command -/

/-- The command that is read next comes from the queue, or is the close of a dropped handle. -/
theorem nextCommand?_eq_some {link : Link} {command : Command} {rest : List Command}
    (next : link.nextCommand? = some (command, rest)) :
    link.queue = command :: rest ∨
      link.queue = [] ∧ link.handle = false ∧ command = .normalClose ∧ rest = [] := by
  unfold nextCommand? at next
  split at next
  · rename_i queue
    cases next
    exact .inl queue
  · rename_i queue
    split at next
    · cases next
    · rename_i dropped
      cases next
      exact .inr ⟨queue, eq_false_of_ne_true dropped, rfl, rfl⟩

/-! ## Turns -/

/-- What a move makes happen to the conversation, if anything. -/
def occurrence? (link : Link) : Move → Option Occurrence
  | .ask _ => none
  | .drop => none
  | .connect => some .connected
  | .fail failure => some (.failed failure)
  | .overhear =>
    match link.stage with
    | .connecting => link.nextCommand?.map fun next => .overheard next.1
    | _ => none
  | .arrive arrival writable => some (.arrived arrival writable)
  | .obey result now =>
    match link.stage with
    | .talking => link.nextCommand?.map fun next => .commanded next.1 result now
    | _ => none
  | .expire => some .expired

/-- What the conversation makes of a move. -/
def turn (timeout : Option Duration) (link : Link) (move : Move) : Turn :=
  match link.occurrence? move with
  | none => link.stage.idle
  | some occurrence => link.stage.take timeout occurrence

/-- What a move does to a link apart from its queue and its handle is the turn it makes, with the
signals passed through the lifecycle. -/
structure Took (link : Link) (turn : Turn) (after : Link) : Prop where
  stage_eq : after.stage = turn.stage
  lifecycle_eq : after.lifecycle = (link.lifecycle.acceptAll turn.signals).1
  told_eq : after.told = link.told ++ (link.lifecycle.acceptAll turn.signals).2
  sent_eq : after.sent = link.sent ++ turn.sent

theorem took_meet (timeout : Option Duration) (link : Link) (occurrence : Occurrence) :
    Took link (link.stage.take timeout occurrence) (link.meet timeout occurrence) :=
  ⟨rfl, rfl, rfl, rfl⟩

/-- A link whose conversation idles. -/
theorem took_idle {link after : Link} (stage_eq : after.stage = link.stage)
    (lifecycle_eq : after.lifecycle = link.lifecycle) (told_eq : after.told = link.told)
    (sent_eq : after.sent = link.sent) : Took link link.stage.idle after where
  stage_eq := stage_eq
  lifecycle_eq := lifecycle_eq
  told_eq := told_eq.trans (List.append_nil link.told).symm
  sent_eq := sent_eq.trans (List.append_nil link.sent).symm

theorem took_ask (link : Link) (command : Command) :
    Took link link.stage.idle (link.ask command).2 := by
  unfold ask
  split
  · exact took_idle rfl rfl rfl rfl
  · exact took_idle rfl rfl rfl rfl
  · split <;> exact took_idle rfl rfl rfl rfl

/-- Reading a command: nothing happens if there is none. -/
theorem took_read (timeout : Option Duration) (link : Link) (occurrence : Command → Occurrence) :
    Took link
      (match link.nextCommand?.map fun next => occurrence next.1 with
        | none => link.stage.idle
        | some occurrence => link.stage.take timeout occurrence)
      (link.read timeout occurrence) := by
  unfold read
  cases next : link.nextCommand? with
  | none => exact took_idle rfl rfl rfl rfl
  | some command => exact ⟨rfl, rfl, rfl, rfl⟩

/-- **Every move takes its turn.** -/
theorem took_step (timeout : Option Duration) (link : Link) (move : Move) :
    Took link (link.turn timeout move) (link.step timeout move) := by
  cases move with
  | ask command =>
      simp only [step]
      split
      · exact took_ask link command
      · exact took_idle rfl rfl rfl rfl
  | drop => exact took_idle rfl rfl rfl rfl
  | connect => exact took_meet timeout link .connected
  | fail failure => exact took_meet timeout link (.failed failure)
  | overhear =>
      obtain ⟨lifecycle, stage, queue, handle, told, sent⟩ := link
      cases stage with
      | connecting => exact took_read timeout _ .overheard
      | _ => exact took_idle rfl rfl rfl rfl
  | arrive arrival writable => exact took_meet timeout link (.arrived arrival writable)
  | obey result now =>
      obtain ⟨lifecycle, stage, queue, handle, told, sent⟩ := link
      cases stage with
      | talking => exact took_read timeout _ fun command => .commanded command result now
      | _ => exact took_idle rfl rfl rfl rfl
  | expire => exact took_meet timeout link .expired

/-! ## The signals of a run -/

/-- All that the transport signals during a run, in order. -/
def signals (timeout : Option Duration) : Link → List Move → List Signal
  | _, [] => []
  | link, move :: moves =>
    (link.turn timeout move).signals ++ signals timeout (link.step timeout move) moves

/-- What a link shows its host, and all that it told, is what a fresh lifecycle makes of the
signals. -/
def Relayed (link : Link) (signals : List Signal) : Prop :=
  ({} : Lifecycle).acceptAll signals = (link.lifecycle, link.told)

theorem Relayed.step {link : Link} {signals : List Signal} (relayed : Relayed link signals)
    (timeout : Option Duration) (move : Move) :
    Relayed (link.step timeout move) (signals ++ (link.turn timeout move).signals) := by
  have took := took_step timeout link move
  rw [Relayed, Lifecycle.acceptAll_append, relayed, took.lifecycle_eq, took.told_eq]

/-- What every move preserves, if its turn is added to the signals, holds after a run for all the
signals of the run. -/
theorem run_induction {holds : Link → List Signal → Prop} {timeout : Option Duration}
    (step : ∀ link signals, holds link signals → ∀ move,
      holds (link.step timeout move) (signals ++ (link.turn timeout move).signals))
    {link : Link} {before : List Signal} (start : holds link before) (moves : List Move) :
    holds (link.run timeout moves) (before ++ link.signals timeout moves) := by
  induction moves generalizing link before with
  | nil =>
      rw [signals, List.append_nil]
      exact start
  | cons move moves ih =>
      rw [signals, ← List.append_assoc]
      exact ih (step link before start move)

/-- **The host of a link is told what a lifecycle tells for its signals.** -/
theorem relayed_run (timeout : Option Duration) (moves : List Move) :
    Relayed (({} : Link).run timeout moves) (({} : Link).signals timeout moves) := by
  have start : Relayed ({} : Link) [] := rfl
  refine run_induction ?_ start moves
  intro link signals relayed move
  exact relayed.step timeout move

end WebSocketClient.Link
