import Mathlib.Logic.Relation
import WebSocketClient.Proofs.Request
import WebSocketClient.Rehearsal

/-!
# The moments of a rehearsal

A rehearsal nests: a signal that is reported from inside a call is dispatched while the signal
whose notice made that call is not yet done with.  What can then happen next is nevertheless simple,
because only one thing is kept for later: the notices that are still owed to the listener.  A moment
is a rehearsal together with these notices, and `Moment.Next` lists all that can happen at a moment.
Each of them is one small change, and none of them mentions a call inside a call.

The main result is that every rehearsal is a sequence of moments: whatever the steps of a script and
the reactions to its calls are, the rehearsal afterwards is reached from the one before, and the
notices owed are the same as before (`performAll_reaches`, `ending_reaches`).  A property of
rehearsals is then shown by looking at one change at a time.
-/

namespace WebSocketClient

set_option autoImplicit false

open Relation (ReflTransGen)

/-! ## Looks -/

/-- What a look at a connection shows: the state, and the record if the look shows that too. -/
structure Look where
  state : ReadyState
  record? : Option (Option CloseRecord)

namespace Look

/-- The look of someone who sees the state and the record. -/
def whole (state : ReadyState) (record : Option CloseRecord) : Look :=
  ⟨state, some record⟩

/-- The look of someone who sees the state only. -/
def ofState (state : ReadyState) : Look :=
  ⟨state, none⟩

/-- A look shows a lifecycle as it is. -/
def Shows (look : Look) (lifecycle : Lifecycle) : Prop :=
  look.state = lifecycle.state ∧ ∀ record, look.record? = some record → record = lifecycle.record

theorem ofState_shows (lifecycle : Lifecycle) : (ofState lifecycle.state).Shows lifecycle :=
  ⟨rfl, fun _ shown => by cases shown⟩

theorem whole_shows (lifecycle : Lifecycle) :
    (whole lifecycle.state lifecycle.record).Shows lifecycle :=
  ⟨rfl, fun _ shown => by cases shown; rfl⟩

end Look

/-- What a step shows of the connection, if it is a look.  What the steps of another thread saw is
told only when that thread is done, so it is no look at the moment at which it is told. -/
def Outcome.look? : Outcome → Option Look
  | sink state _ => some (.ofState state)
  | snapshot shown => some (.whole shown.state shown.record)
  | _ => none

/-- What could be seen when an entry was made. -/
def Entry.look? : Entry → Option Look
  | call _ sight => some (.whole sight.state sight.record)
  | step _ _ outcome => outcome.look?

/-- Whatever an outcome shows is so. -/
def Outcome.Shows (outcome : Outcome) (lifecycle : Lifecycle) : Prop :=
  ∀ look, outcome.look? = some look → look.Shows lifecycle

/-- The result of a request shows nothing of the connection. -/
theorem Outcome.look?_ofResult (result : Except Failure Unit) : (ofResult result).look? = none := by
  cases result <;> rfl

/-- The step neither reports a signal nor makes a request, and takes no further steps. -/
def Step.isAside : Step → Bool
  | .inspect | .query | .describe | .dropHandle | .serve _ | .poll _ | .take | .dropReader => true
  | .report _ | .emit _ | .send _ | .close | .closeWith .. | .thread _ => false

namespace Rehearsal

/-- The outcome of a step shows the connection as it is after the step. -/
theorem perform_shows (react : React) (step : Step) (rehearsal : Rehearsal) :
    (perform react step rehearsal).1.Shows (perform react step rehearsal).2.lifecycle := by
  intro look shown
  have request (verdict : Verdict) :
      (requestStep react verdict rehearsal).1.look? ≠ some look := by
    unfold requestStep
    split
    · simp only [Outcome.look?_ofResult, ne_eq, reduceCtorEq, not_false_eq_true]
    · exact nofun
  have report (signal : Signal) : (reportStep react signal rehearsal).1.look? ≠ some look := by
    unfold reportStep
    split <;> exact nofun
  cases step with
  | report signal => exact absurd shown (report signal)
  | emit signal => exact absurd shown (report signal)
  | send payload => exact absurd shown (request _)
  | close => exact absurd shown (request _)
  | closeWith code reason => exact absurd shown (request _)
  | inspect =>
      simp only [perform] at shown ⊢
      split at shown
      · cases shown
        simp only [*, if_true]
        exact Look.ofState_shows _
      · cases shown
  | query =>
      simp only [perform] at shown ⊢
      split at shown
      · cases shown
        simp only [*]
        exact Look.whole_shows _
      · cases shown
  | describe => simp only [perform] at shown; split at shown <;> cases shown
  | dropHandle => cases shown
  | serve service => cases shown
  | thread steps => cases shown
  | poll stream => simp only [perform] at shown; split at shown <;> cases shown
  | take => simp only [perform] at shown; split at shown <;> cases shown
  | dropReader => cases shown

/-! ## Steps aside -/

/-- A step aside changes only what the host has in hand and how the transport answers. -/
theorem perform_of_isAside (react : React) {step : Step} (aside : step.isAside)
    (rehearsal : Rehearsal) :
    ∃ handle service mailbox,
      (perform react step rehearsal).2 = { rehearsal with handle, service, mailbox } := by
  cases step with
  | inspect =>
      simp only [perform]
      split <;> exact ⟨_, _, _, rfl⟩
  | query =>
      simp only [perform]
      split <;> exact ⟨_, _, _, rfl⟩
  | describe =>
      simp only [perform]
      split <;> exact ⟨_, _, _, rfl⟩
  | dropHandle =>
      simp only [perform]
      exact ⟨none, _, _, rfl⟩
  | serve service =>
      simp only [perform]
      exact ⟨_, service, _, rfl⟩
  | poll stream =>
      simp only [perform]
      split <;> exact ⟨_, _, _, rfl⟩
  | take =>
      simp only [perform]
      split <;> exact ⟨_, _, _, rfl⟩
  | dropReader =>
      simp only [perform]
      exact ⟨_, _, rehearsal.mailbox.dropReader, rfl⟩
  | report signal => cases aside
  | emit signal => cases aside
  | send payload => cases aside
  | close => cases aside
  | closeWith code reason => cases aside
  | thread steps => cases aside

/-! ## Calls without what happens inside them -/

/-- A signal is emitted and taken in; the listener is told nothing yet. -/
def hear (rehearsal : Rehearsal) (signal : Signal) : Rehearsal :=
  { rehearsal with
    lifecycle := (rehearsal.lifecycle.accept signal).1
    reported := rehearsal.reported ++ [signal] }

/-- The listener is told something; it has not reacted yet. -/
def tell (rehearsal : Rehearsal) (notice : Notice) : Rehearsal :=
  if rehearsal.listener.posts then
    { rehearsal with mailbox := rehearsal.mailbox.post notice }
  else if rehearsal.listener.calls notice.kind then
    rehearsal.record (.call (.notice notice) rehearsal.sight)
  else rehearsal

section Tell

variable (rehearsal : Rehearsal) (notice : Notice)

@[simp] theorem tell_lifecycle : (rehearsal.tell notice).lifecycle = rehearsal.lifecycle := by
  unfold tell
  split
  · rfl
  · split <;> rfl

@[simp] theorem tell_reported : (rehearsal.tell notice).reported = rehearsal.reported := by
  unfold tell
  split
  · rfl
  · split <;> rfl

@[simp] theorem tell_listener : (rehearsal.tell notice).listener = rehearsal.listener := by
  unfold tell
  split
  · rfl
  · split <;> rfl

end Tell

/-- The transport is asked to carry out a command; it has not reacted yet. -/
def pass (rehearsal : Rehearsal) (command : Command) : Rehearsal :=
  let asked := { rehearsal with asked := rehearsal.asked ++ [(command, rehearsal.sight)] }
  match rehearsal.service with
  | .present _ => asked.record (.call (.ofCommand command) asked.sight)
  | .gone => asked

section Pass

variable (rehearsal : Rehearsal) (command : Command)

@[simp] theorem pass_lifecycle : (rehearsal.pass command).lifecycle = rehearsal.lifecycle := by
  unfold pass
  dsimp only
  split <;> rfl

@[simp] theorem pass_reported : (rehearsal.pass command).reported = rehearsal.reported := by
  unfold pass
  dsimp only
  split <;> rfl

@[simp] theorem pass_listener : (rehearsal.pass command).listener = rehearsal.listener := by
  unfold pass
  dsimp only
  split <;> rfl

end Pass

/-- The reaction to a call runs. -/
def respond (react : React) (kind : CallKind) (rehearsal : Rehearsal) : Rehearsal :=
  match takeReaction kind rehearsal.reactions with
  | none => rehearsal
  | some (steps, reactions) => react kind steps { rehearsal with reactions }

theorem enter_eq (react : React) (call : Call) (rehearsal : Rehearsal) :
    enter react call rehearsal =
      respond react call.kind (rehearsal.record (.call call rehearsal.sight)) := rfl

theorem dispatch_emit (react : React) (signal : Signal) (rehearsal : Rehearsal) :
    dispatch react signal (rehearsal.emit signal) =
      (rehearsal.lifecycle.accept signal).2.foldl
        (fun current notice => deliver react notice current) (rehearsal.hear signal) := rfl

/-- A transport that is there reacts to a command, and one that is gone does not. -/
theorem snd_command (react : React) (asked : Command) (rehearsal : Rehearsal) :
    (rehearsal.command react asked).2 =
      match rehearsal.service with
      | .present _ => respond react (Call.ofCommand asked).kind (rehearsal.pass asked)
      | .gone => rehearsal.pass asked := by
  unfold command pass
  cases rehearsal.service <;> rfl

end Rehearsal

/-! ## Moments -/

/-- A rehearsal between two things that happen, and the notices that are still owed to the
listener. -/
structure Moment where
  owed : List Notice
  now : Rehearsal

namespace Moment

/-- All that can happen at a moment. -/
inductive Next : Moment → Moment → Prop where
  /-- A signal is taken in that the host is not told of. -/
  | dropped {owed now} (signal : Signal) (untold : (now.lifecycle.accept signal).2 = []) :
      Next ⟨owed, now⟩ ⟨owed, now.hear signal⟩
  /-- A signal is taken in, and the listener is told the first of its notices. -/
  | heard {owed now} (signal : Signal) {first : Notice} {rest : List Notice}
      (notices : (now.lifecycle.accept signal).2 = first :: rest) :
      Next ⟨owed, now⟩ ⟨rest ++ owed, (now.hear signal).tell first⟩
  /-- The listener is told the next notice that is owed to it. -/
  | told {owed now} (notice : Notice) : Next ⟨notice :: owed, now⟩ ⟨owed, now.tell notice⟩
  /-- The transport is asked to begin connecting. -/
  | connect {owed now} (endpoint : Endpoint) (settings : Settings) :
      Next ⟨owed, now⟩ ⟨owed, now.record (.call (.connect endpoint settings) now.sight)⟩
  /-- A request of the host is passed on to the transport. -/
  | passed {owed now} (command : Command)
      (verdict : Verdict.ofRequest now.lifecycle.state command = .passed command) :
      Next ⟨owed, now⟩ ⟨owed, now.pass command⟩
  /-- The outcome of a step inside a call is recorded. -/
  | noted {owed now} (during : CallKind) (step : Step) {outcome : Outcome}
      (shown : outcome.Shows now.lifecycle) :
      Next ⟨owed, now⟩ ⟨owed, now.record (.step during step outcome)⟩
  /-- Something changes that neither the lifecycle nor the log depends on. -/
  | aside {owed now} (sink : Bool) (handle : Option Endpoint) (service : Service)
      (reactions : List Reaction) :
      Next ⟨owed, now⟩ ⟨owed, { now with sink, handle, service, reactions }⟩
  /-- The host looks into its mailbox. -/
  | read {owed now} : Next ⟨owed, now⟩ ⟨owed, { now with mailbox := now.mailbox.take?.2 }⟩
  | readerDropped {owed now} :
      Next ⟨owed, now⟩ ⟨owed, { now with mailbox := now.mailbox.dropReader }⟩
  | writerDropped {owed now} :
      Next ⟨owed, now⟩ ⟨owed, { now with mailbox := now.mailbox.dropWriter }⟩

/-- A moment is reached from another by finitely many things that happen. -/
abbrev Reaches : Moment → Moment → Prop :=
  ReflTransGen Next

end Moment

namespace Rehearsal

open Moment (Next Reaches)

/-- A way of running the code inside a call that is itself a sequence of moments. -/
def Momentary (react : React) : Prop :=
  ∀ during steps owed rehearsal,
    Reaches ⟨owed, rehearsal⟩ ⟨owed, react during steps rehearsal⟩

variable {react : React}

/-! ## Calls as moments -/

theorem respond_reaches (momentary : Momentary react) (kind : CallKind) (owed : List Notice)
    (rehearsal : Rehearsal) :
    Reaches ⟨owed, rehearsal⟩ ⟨owed, respond react kind rehearsal⟩ := by
  unfold respond
  split
  · exact .refl
  · exact .head (.aside _ _ _ _) (momentary _ _ _ _)

/-- A delivery is the telling of a notice, perhaps with a reaction. -/
theorem deliver_reaches (momentary : Momentary react) (notice : Notice) (owed : List Notice)
    (rehearsal : Rehearsal) :
    Reaches ⟨owed, rehearsal.tell notice⟩ ⟨owed, deliver react notice rehearsal⟩ := by
  unfold deliver tell
  split
  · exact .refl
  · split
    · rw [enter_eq]
      exact respond_reaches momentary _ _ _
    · exact .refl

/-- Notices that are owed are delivered in order. -/
theorem deliverAll_reaches (momentary : Momentary react) (notices owed : List Notice)
    (rehearsal : Rehearsal) :
    Reaches ⟨notices ++ owed, rehearsal⟩
      ⟨owed, notices.foldl (fun current notice => deliver react notice current) rehearsal⟩ := by
  induction notices generalizing rehearsal with
  | nil => exact .refl
  | cons notice notices ih =>
      have delivered := deliver_reaches momentary notice (notices ++ owed) rehearsal
      exact .head (.told notice) (delivered.trans (ih _))

/-- A signal is dispatched: it is taken in together with its first notice, and the others are
owed until the reaction to the first is over. -/
theorem dispatch_reaches (momentary : Momentary react) (signal : Signal) (owed : List Notice)
    (rehearsal : Rehearsal) :
    Reaches ⟨owed, rehearsal⟩ ⟨owed, dispatch react signal (rehearsal.emit signal)⟩ := by
  rw [dispatch_emit]
  cases notices : (rehearsal.lifecycle.accept signal).2 with
  | nil => exact .single (.dropped signal notices)
  | cons first rest =>
      have delivered := deliver_reaches momentary first (rest ++ owed) (rehearsal.hear signal)
      exact .head (.heard signal notices)
        (delivered.trans (deliverAll_reaches momentary rest owed _))

theorem requestStep_reaches (momentary : Momentary react) (asked : Command) (owed : List Notice)
    (rehearsal : Rehearsal) :
    Reaches ⟨owed, rehearsal⟩
      ⟨owed, (requestStep react (.ofRequest rehearsal.lifecycle.state asked) rehearsal).2⟩ := by
  unfold requestStep
  split
  · cases verdict : Verdict.ofRequest rehearsal.lifecycle.state asked with
    | refused failure => exact .refl
    | settled => exact .refl
    | passed command =>
        obtain rfl := Verdict.eq_of_passed verdict
        refine .head (.passed asked verdict) ?_
        rw [request, snd_command]
        cases rehearsal.service with
        | present answer => exact respond_reaches momentary _ _ _
        | gone => exact .refl
  · exact .refl

theorem reportStep_reaches (momentary : Momentary react) (signal : Signal) (owed : List Notice)
    (rehearsal : Rehearsal) :
    Reaches ⟨owed, rehearsal⟩ ⟨owed, (reportStep react signal rehearsal).2⟩ := by
  unfold reportStep
  split
  · exact dispatch_reaches momentary signal owed rehearsal
  · exact .refl

/-! ## Steps as moments -/

mutual

/-- Taking a step is a sequence of moments. -/
theorem perform_reaches (momentary : Momentary react) :
    ∀ (step : Step) (owed : List Notice) (rehearsal : Rehearsal),
      Reaches ⟨owed, rehearsal⟩ ⟨owed, (perform react step rehearsal).2⟩
  | .report signal, owed, rehearsal => by
      simpa only [perform] using reportStep_reaches momentary signal owed rehearsal
  | .emit signal, owed, rehearsal => by
      simpa only [perform] using reportStep_reaches momentary signal owed rehearsal
  | .inspect, owed, rehearsal => by
      simp only [perform]
      split <;> exact .refl
  | .send payload, owed, rehearsal => by
      simp only [perform]
      exact requestStep_reaches momentary (.send payload) owed rehearsal
  | .close, owed, rehearsal => by
      simp only [perform]
      exact requestStep_reaches momentary (.close .normal "") owed rehearsal
  | .closeWith code reason, owed, rehearsal => by
      simp only [perform]
      exact requestStep_reaches momentary (.close code reason) owed rehearsal
  | .query, owed, rehearsal => by
      simp only [perform]
      split <;> exact .refl
  | .describe, owed, rehearsal => by
      simp only [perform]
      split <;> exact .refl
  | .dropHandle, _, _ => by
      simp only [perform]
      exact .single (.aside _ _ _ _)
  | .serve _, _, _ => by
      simp only [perform]
      exact .single (.aside _ _ _ _)
  | .thread steps, owed, rehearsal => by
      simpa only [perform] using performAll_reaches momentary steps owed rehearsal
  | .poll _, owed, rehearsal => by
      simp only [perform]
      split
      · have polled : rehearsal.mailbox.poll.2 = rehearsal.mailbox.take?.2 := by
          unfold Mailbox.poll
          split <;> simp only [*]
        simp only [polled]
        exact .single .read
      · exact .refl
  | .take, _, _ => by
      simp only [perform]
      split
      · exact .single .read
      · exact .refl
  | .dropReader, _, _ => by
      simp only [perform]
      exact .single .readerDropped

/-- Taking several steps is a sequence of moments. -/
theorem performAll_reaches (momentary : Momentary react) :
    ∀ (steps : List Step) (owed : List Notice) (rehearsal : Rehearsal),
      Reaches ⟨owed, rehearsal⟩ ⟨owed, (performAll react steps rehearsal).2⟩
  | [], _, _ => by
      simp only [performAll]
      exact .refl
  | step :: steps, owed, rehearsal => by
      simp only [performAll]
      exact (perform_reaches momentary step owed rehearsal).trans
        (performAll_reaches momentary steps owed _)

end

theorem performDuring_reaches (momentary : Momentary react) (during : CallKind) (step : Step)
    (owed : List Notice) (rehearsal : Rehearsal) :
    Reaches ⟨owed, rehearsal⟩ ⟨owed, performDuring react during step rehearsal⟩ :=
  (perform_reaches momentary step owed rehearsal).tail
    (.noted during step (perform_shows react step rehearsal))

/-- However deep calls may nest, the code inside a call runs as a sequence of moments. -/
theorem play_momentary (depth : Nat) : Momentary (play depth) := by
  induction depth with
  | zero => exact fun _ _ _ _ => .refl
  | succ depth ih =>
      intro during steps owed rehearsal
      simp only [play]
      induction steps generalizing rehearsal with
      | nil => exact .refl
      | cons step steps steps_ih =>
          exact (performDuring_reaches ih during step owed rehearsal).trans (steps_ih _)

theorem reactAll_momentary : Momentary reactAll :=
  fun during steps owed rehearsal => play_momentary _ during steps owed rehearsal

/-! ## Whole rehearsals -/

theorem connect_reaches (scene : Scene) (owed : List Notice) (rehearsal : Rehearsal) :
    Reaches ⟨owed, rehearsal⟩ ⟨owed, (connect scene rehearsal).2⟩ := by
  unfold connect
  split
  · exact .single .writerDropped
  · rename_i endpoint _
    have asked : Reaches ⟨owed, rehearsal⟩
        ⟨owed, enter reactAll (.connect endpoint scene.settings)
          { rehearsal with sink := true }⟩ := by
      refine .head (.aside true rehearsal.handle rehearsal.service rehearsal.reactions)
        (.head (.connect endpoint scene.settings) ?_)
      exact respond_reaches reactAll_momentary _ _ _
    dsimp only
    split
    · exact asked
    · exact asked.tail (.aside _ _ _ _)

/-- The rehearsal in which a script ends. -/
def ending (scene : Scene) (steps : List Step) : Rehearsal :=
  (performAll reactAll steps ((ofScene scene).connect scene).2).2

/-- **A whole rehearsal is a sequence of moments**, and at its end nothing is owed. -/
theorem ending_reaches (scene : Scene) (steps : List Step) :
    Reaches ⟨[], ofScene scene⟩ ⟨[], ending scene steps⟩ :=
  (connect_reaches scene [] (ofScene scene)).trans
    (performAll_reaches reactAll_momentary steps [] _)

end Rehearsal

end WebSocketClient
