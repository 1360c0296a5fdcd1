import WebSocketClient.Proofs.Rehearsal.Bare
import WebSocketClient.Proofs.Rehearsal.Depth
import WebSocketClient.Proofs.Rehearsal.Runs

/-!
# Requests disturb nothing

A host may ask its connection for anything at any time, and none of this moves the lifecycle.  If
the methods of the transport report nothing of their own, a script shows what its bare script shows:
the same notices are told, whoever looks from inside a call sees the same, and the lifecycle is the
same after every signal (`undisturbed_of_run`).

The proof runs both scripts side by side and keeps them alike.  A call of the host happens in the
full script only.  It may run code of the transport, and that code may call the transport again, but
all of it leaves the rehearsals alike (`Undisturbed.performAside`).  Every other step happens in
both (`Undisturbed.perform`).
-/

namespace WebSocketClient

set_option autoImplicit false

namespace Rehearsal

/-! ## The two scripts side by side -/

/-- A way of running the code inside calls that keeps the scripts alike: inside a command, while the
bare script waits, and inside any other call, step by step. -/
structure Undisturbed (react : React) : Prop where
  aside : ∀ during steps full bare, during.isCommand → Step.allSilent steps → Alike full bare →
    Alike (react during steps full) bare
  along : ∀ during steps full bare, during.isCommand = false → Alike full bare →
    Alike (react during steps full) (react during (Step.bareAll steps) bare)

namespace Undisturbed

variable {react : React} {full bare : Rehearsal}

/-! ### While the bare script waits -/

section Aside

variable (undisturbed : Undisturbed react)

include undisturbed

theorem respondAside {kind : CallKind} (command : kind.isCommand) (alike : Alike full bare) :
    Alike (respond react kind full) bare := by
  unfold respond
  cases taken : takeReaction kind full.reactions with
  | none => exact alike
  | some found =>
      obtain ⟨steps, reactions⟩ := found
      obtain ⟨silent, pairs⟩ := alike.pairs.takeCommand command taken
      exact undisturbed.aside kind steps _ bare command silent ⟨alike.common_eq, pairs⟩

/-- The transport is asked, and may react, but it reports nothing. -/
theorem command (command : Command) (alike : Alike full bare) :
    Alike (Rehearsal.command react command full).2 bare := by
  have isCommand : (Call.ofCommand command).kind.isCommand = true := by cases command <;> rfl
  have passed : Alike (full.pass command) bare := by
    have unseen (sight : Sight) : (Entry.call (.ofCommand command) sight).glimpse? = none := by
      cases command <;> rfl
    have asked : Alike { full with asked := full.asked ++ [(command, full.sight)] } bare :=
      alike.of_full rfl rfl
    unfold pass
    dsimp only
    split
    · exact asked.record_unseen (unseen _)
    · exact asked
  rw [snd_command]
  split
  · exact undisturbed.respondAside isCommand passed
  · exact passed

theorem request (verdict : Verdict) (alike : Alike full bare) :
    Alike (requestStep react verdict full).2 bare := by
  unfold requestStep
  split
  · cases verdict with
    | refused failure => exact alike
    | settled => exact alike
    | passed command => exact undisturbed.command command alike
  · exact alike

end Aside

mutual

/-- A step that reports nothing is taken while the bare script waits. -/
theorem performAside (undisturbed : Undisturbed react) :
    ∀ (step : Step) {full bare : Rehearsal}, step.isSilent → Alike full bare →
      Alike (Rehearsal.perform react step full).2 bare
  | .report signal, _, _, silent, _ => nomatch silent
  | .emit signal, _, _, silent, _ => nomatch silent
  | .send payload, _, _, _, alike => by
      simp only [Rehearsal.perform]
      exact undisturbed.request _ alike
  | .close, _, _, _, alike => by
      simp only [Rehearsal.perform]
      exact undisturbed.request _ alike
  | .closeWith code reason, _, _, _, alike => by
      simp only [Rehearsal.perform]
      exact undisturbed.request _ alike
  | .thread steps, _, _, silent, alike => by
      simp only [Rehearsal.perform]
      exact performAllAside undisturbed steps silent alike
  | .inspect, _, _, _, alike | .query, _, _, _, alike | .describe, _, _, _, alike
  | .dropHandle, _, _, _, alike | .serve _, _, _, _, alike | .poll _, _, _, _, alike
  | .take, _, _, _, alike | .dropReader, _, _, _, alike => alike.aside react rfl

/-- So are several such steps. -/
theorem performAllAside (undisturbed : Undisturbed react) :
    ∀ (steps : List Step) {full bare : Rehearsal}, Step.allSilent steps → Alike full bare →
      Alike (Rehearsal.performAll react steps full).2 bare
  | [], _, _, _, alike => by
      simp only [Rehearsal.performAll]
      exact alike
  | step :: steps, _, _, silent, alike => by
      simp only [Step.allSilent, Bool.and_eq_true] at silent
      simp only [Rehearsal.performAll]
      exact performAllAside undisturbed steps silent.2
        (performAside undisturbed step silent.1 alike)

end

/-- The code inside a command runs while the bare script waits. -/
theorem foldlAside (undisturbed : Undisturbed react) {during : CallKind}
    (command : during.isCommand) {steps : List Step} (silent : Step.allSilent steps)
    (alike : Alike full bare) :
    Alike (steps.foldl (fun current step => performDuring react during step current) full)
      bare := by
  induction steps generalizing full with
  | nil => exact alike
  | cons step steps ih =>
      simp only [Step.allSilent, Bool.and_eq_true] at silent
      have performed := undisturbed.performAside step silent.1 alike
      exact ih silent.2 (performed.record_unseen (Entry.glimpse?_of_isCommand command step _))

/-! ### What happens in both scripts -/

section Along

variable (undisturbed : Undisturbed react)

include undisturbed

theorem respond {kind : CallKind} (shared : kind.isCommand = false) (alike : Alike full bare) :
    Alike (Rehearsal.respond react kind full) (Rehearsal.respond react kind bare) := by
  unfold Rehearsal.respond
  obtain ⟨none, alsoNone⟩ | ⟨steps, fullAfter, bareAfter, taken, alsoTaken, pairs⟩ :=
    alike.pairs.take shared
  · rw [none, alsoNone]
    exact alike
  · rw [taken, alsoTaken]
    exact undisturbed.along kind steps _ _ shared ⟨alike.common_eq, pairs⟩

theorem deliver (notice : Notice) (alike : Alike full bare) :
    Alike (Rehearsal.deliver react notice full) (Rehearsal.deliver react notice bare) := by
  unfold Rehearsal.deliver
  by_cases posts : full.listener.posts
  · have also : bare.listener.posts := by rwa [← alike.listener_eq]
    rw [if_pos posts, if_pos also]
    exact alike.of_same rfl rfl rfl rfl
  · have neither : ¬bare.listener.posts := by rwa [← alike.listener_eq]
    rw [if_neg posts, if_neg neither, ← alike.listener_eq]
    split
    · rw [enter_eq, enter_eq]
      refine undisturbed.respond rfl (alike.record ?_)
      show some (some notice, Look.whole full.lifecycle.state full.lifecycle.record) = _
      rw [alike.lifecycle_eq]
      rfl
    · exact alike

theorem report (signal : Signal) (alike : Alike full bare) :
    Alike (reportStep react signal full).2 (reportStep react signal bare).2 := by
  have delivered (notices : List Notice) {full bare : Rehearsal} (alike : Alike full bare) :
      Alike (notices.foldl (fun current notice => Rehearsal.deliver react notice current) full)
        (notices.foldl (fun current notice => Rehearsal.deliver react notice current) bare) := by
    induction notices generalizing full bare with
    | nil => exact alike
    | cons notice notices ih => exact ih (undisturbed.deliver notice alike)
  unfold reportStep
  rw [alike.sink_eq]
  split
  · simp only [dispatch_emit]
    rw [alike.lifecycle_eq]
    exact delivered _ (alike.hear signal)
  · exact alike

end Along

mutual

/-- A step that is no call of the host is taken in both scripts. -/
theorem perform (undisturbed : Undisturbed react) :
    ∀ (step : Step) {full bare : Rehearsal}, step.isHostCall = false → Alike full bare →
      Alike (Rehearsal.perform react step full).2 (Rehearsal.perform react step.bare bare).2
  | .report signal, _, _, _, alike => by
      simp only [Step.bare, Rehearsal.perform]
      exact undisturbed.report signal alike
  | .emit signal, _, _, _, alike => by
      simp only [Step.bare, Rehearsal.perform]
      exact undisturbed.report signal alike
  | .thread steps, _, _, _, alike => by
      simp only [Step.bare, Rehearsal.perform]
      exact performAll undisturbed steps alike
  | .inspect, _, _, _, alike | .describe, _, _, _, alike | .dropHandle, _, _, _, alike
  | .serve _, _, _, _, alike | .poll _, _, _, _, alike | .take, _, _, _, alike
  | .dropReader, _, _, _, alike => by
      simp only [Step.bare]
      exact alike.asideBoth react rfl
  | .send payload, _, _, kept, _ => nomatch kept
  | .close, _, _, kept, _ => nomatch kept
  | .closeWith code reason, _, _, kept, _ => nomatch kept
  | .query, _, _, kept, _ => nomatch kept

/-- Several steps are taken, in the bare script without the calls of the host. -/
theorem performAll (undisturbed : Undisturbed react) :
    ∀ (steps : List Step) {full bare : Rehearsal}, Alike full bare →
      Alike (Rehearsal.performAll react steps full).2
        (Rehearsal.performAll react (Step.bareAll steps) bare).2
  | [], _, _, alike => by
      simp only [Step.bareAll, Rehearsal.performAll]
      exact alike
  | step :: steps, full, bare, alike => by
      simp only [Step.bareAll, Rehearsal.performAll]
      cases asks : step.isHostCall with
      | true =>
          have aside := undisturbed.performAside step (Step.isSilent_of_isHostCall asks) alike
          exact performAll undisturbed steps aside
      | false =>
          simp only [Bool.false_eq_true, if_false, Rehearsal.performAll]
          exact performAll undisturbed steps (perform undisturbed step asks alike)

end

/-- What is recorded of a step inside a call is the same glimpse in both scripts. -/
theorem glimpse?_perform (alike : Alike full bare) (during : CallKind) (step : Step) :
    (Entry.step during step (Rehearsal.perform react step full).1).glimpse? =
      (Entry.step during step.bare (Rehearsal.perform react step.bare bare).1).glimpse? := by
  cases step with
  | inspect =>
      simp only [Step.bare, Rehearsal.perform, alike.sink_eq, alike.lifecycle_eq]
      split <;> rfl
  | _ => rfl

/-- The code inside a call that both scripts make. -/
theorem foldl (undisturbed : Undisturbed react) (during : CallKind) (steps : List Step)
    (alike : Alike full bare) :
    Alike (steps.foldl (fun current step => performDuring react during step current) full)
      ((Step.bareAll steps).foldl (fun current step => performDuring react during step current)
        bare) := by
  induction steps generalizing full bare with
  | nil => exact alike
  | cons step steps ih =>
      cases asks : step.isHostCall with
      | true =>
          have aside := undisturbed.performAside step (Step.isSilent_of_isHostCall asks) alike
          simp only [Step.bareAll, asks, if_true]
          exact ih (aside.record_unseen (Entry.glimpse?_of_isHostCall asks during _))
      | false =>
          simp only [Step.bareAll, asks, Bool.false_eq_true, if_false]
          exact ih ((undisturbed.perform step asks alike).record
            (glimpse?_perform alike during step))

end Undisturbed

/-- However deep calls may nest, the two scripts stay alike. -/
theorem undisturbed_play (depth : Nat) : Undisturbed (play depth) := by
  induction depth with
  | zero => exact ⟨fun _ _ _ _ _ _ alike => alike, fun _ _ _ _ _ alike => alike⟩
  | succ depth ih =>
      constructor
      · intro during steps full bare command silent alike
        exact ih.foldlAside command silent alike
      · intro during steps full bare _ alike
        exact ih.foldl during steps alike

theorem undisturbed_reactAll : Undisturbed reactAll := by
  constructor
  · intro during steps full bare command silent alike
    exact (undisturbed_play _).aside during steps full bare command silent alike
  · intro during steps full bare shared alike
    -- The scripts may have different numbers of uses left: some depth is enough for both.
    have enough := agree_reactAll (full.left + bare.left + 1)
    rw [← enough.same during steps full (by omega),
      ← enough.same during (Step.bareAll steps) bare (by omega)]
    exact (undisturbed_play _).along during steps full bare shared alike

/-! ## Whole scripts -/

theorem alike_connect {scene : Scene} (tacit : scene.Tacit) :
    Alike (connect scene (ofScene scene)).2 (connect scene.bare (ofScene scene.bare)).2 := by
  have start : Alike (ofScene scene) (ofScene scene.bare) := ⟨rfl, tacit.pairsAll⟩
  unfold connect
  have parsed : Endpoint.parse scene.bare.url = Endpoint.parse scene.url := rfl
  rw [parsed]
  cases Endpoint.parse scene.url with
  | error failure => exact start.of_same rfl rfl rfl rfl
  | ok endpoint =>
      have begun : Alike { ofScene scene with sink := true }
          { ofScene scene.bare with sink := true } := ⟨rfl, tacit.pairsAll⟩
      have entered : Alike
          (enter reactAll (.connect endpoint scene.settings) { ofScene scene with sink := true })
          (enter reactAll (.connect endpoint scene.bare.settings)
            { ofScene scene.bare with sink := true }) := by
        rw [enter_eq, enter_eq]
        exact undisturbed_reactAll.respond rfl (begun.record rfl)
      have refusal : scene.bare.refusal = scene.refusal := rfl
      simp only [refusal]
      cases scene.refusal with
      | some failure => exact entered
      | none => exact entered.of_same rfl rfl rfl rfl

theorem alike_ending {scene : Scene} (tacit : scene.Tacit) (steps : List Step) :
    Alike (ending scene steps) (ending scene.bare (Step.bareAll steps)) :=
  undisturbed_reactAll.performAll steps (alike_connect tacit)

/-- What was seen during a step, apart from the commands for the transport. -/
def Frame.glimpses (frame : Frame) : List (Option Notice × Look) :=
  frame.log.filterMap Entry.glimpse?

theorem glimpses_run (scene : Scene) (steps : List Step) :
    (run scene steps).flatMap Frame.glimpses = (ending scene steps).common.glimpses :=
  filterMap_log_run Entry.glimpse? scene steps

theorem notices_eq_glimpses (frames : List Frame) :
    frames.flatMap Frame.notices = (frames.flatMap Frame.glimpses).filterMap Prod.fst := by
  rw [List.filterMap_flatMap]
  congr
  funext frame
  rw [Frame.notices, Frame.glimpses, List.filterMap_filterMap]
  congr
  funext entry
  exact entry.notice?_eq

/-- The states after the steps that are no calls of the host. -/
def statesAfter (steps : List Step) (frames : List Frame) : List (Option ReadyState) :=
  ((steps.zip frames).filter (!·.1.isHostCall)).map (·.2.state)

theorem statesAfter_playSteps (steps : List Step) {full bare : Rehearsal}
    (alike : Alike full bare) :
    statesAfter steps (playSteps steps full) =
      (playSteps (Step.bareAll steps) bare).map Frame.state := by
  induction steps generalizing full bare with
  | nil => rfl
  | cons step steps ih =>
      cases asks : step.isHostCall with
      | true =>
          have aside := undisturbed_reactAll.performAside step
            (Step.isSilent_of_isHostCall asks) alike
          have later := ih aside
          simpa [statesAfter, playSteps, Step.bareAll, asks] using later
      | false =>
          have next := undisturbed_reactAll.perform step asks alike
          have later := ih next
          simpa [statesAfter, playSteps, Step.bareAll, asks, frame, next.sink_eq,
            next.lifecycle_eq] using later

end Rehearsal

namespace Moment

theorem Reaches.reported_initial {before after : Moment} (reaches : Reaches before after) :
    before.now.reported <+: after.now.reported := by
  induction reaches with
  | refl => exact List.prefix_rfl
  | tail _ next ih =>
      refine ih.trans ?_
      cases next with
      | dropped signal untold => exact List.prefix_append _ _
      | heard signal notices =>
          rw [Rehearsal.tell_reported]
          exact List.prefix_append _ _
      | told notice => simp
      | passed command verdict => simp
      | connect endpoint settings => exact List.prefix_rfl
      | noted during step shown => exact List.prefix_rfl
      | aside sink handle service reactions => exact List.prefix_rfl
      | read => exact List.prefix_rfl
      | readerDropped => exact List.prefix_rfl
      | writerDropped => exact List.prefix_rfl

end Moment

namespace Rehearsal

open Moment (Reaches)

/-- **Requests disturb nothing.**  Whatever a host asks of its connection, and wherever it asks, the
rest of a script shows what it shows without these calls, as long as the methods of the transport
report nothing: the notices that are told, what is seen from inside the calls that tell them, and
the states after the other steps are the same, and so are the signals that are reported and the
lifecycle at the end.  The lifecycles are the same all along: at two moments with equally many
signals reported the connection is in the same state and has the same record. -/
theorem undisturbed_of_run (scene : Scene) (tacit : scene.Tacit) (steps : List Step) :
    let bare := run scene.bare (Step.bareAll steps)
    (run scene steps).flatMap Frame.notices = bare.flatMap Frame.notices ∧
      (run scene steps).flatMap Frame.glimpses = bare.flatMap Frame.glimpses ∧
      statesAfter steps (run scene steps).tail = bare.tail.map Frame.state ∧
      (ending scene steps).lifecycle = (ending scene.bare (Step.bareAll steps)).lifecycle ∧
      (ending scene steps).reported = (ending scene.bare (Step.bareAll steps)).reported ∧
      ∀ moment other, Reaches ⟨[], ofScene scene⟩ moment →
        Reaches moment ⟨[], ending scene steps⟩ → Reaches ⟨[], ofScene scene.bare⟩ other →
        Reaches other ⟨[], ending scene.bare (Step.bareAll steps)⟩ →
        moment.now.reported.length = other.now.reported.length →
        moment.now.lifecycle = other.now.lifecycle := by
  intro bare
  have alike := alike_ending tacit steps
  have glimpses : (run scene steps).flatMap Frame.glimpses = bare.flatMap Frame.glimpses := by
    rw [glimpses_run, glimpses_run, alike.common_eq]
  refine ⟨?_, glimpses, statesAfter_playSteps steps (alike_connect tacit), alike.lifecycle_eq,
    alike.reported_eq, ?_⟩
  · rw [notices_eq_glimpses, notices_eq_glimpses, glimpses]
  · intro moment other reached reaches otherReached otherReaches together
    have faithful := ((Moment.Faithful.ofScene scene).exists_stretch reached).1
    have otherFaithful := ((Moment.Faithful.ofScene scene.bare).exists_stretch otherReached).1
    have same : moment.now.reported = other.now.reported := by
      have first := reaches.reported_initial
      have second := otherReaches.reported_initial
      rw [alike.reported_eq] at first
      exact (List.prefix_of_prefix_length_le first second (Nat.le_of_eq together)).eq_of_length
        together
    rw [faithful.lifecycle_eq, otherFaithful.lifecycle_eq, same]

/-- A host that sends and closes while it is told of the opening, a transport that calls it back,
and a close that is refused. -/
theorem undisturbed_of_nested_close :
    let scene : Scene :=
      { url := "ws://h/"
        listener := .recorder
        service := .present (.error .connectionClosed)
        reactions :=
          [⟨.notice .opened, 1, [.send "hi", .close]⟩, ⟨.close, 2, [.query, .send "me"]⟩] }
    let steps : List Step := [.report .opened, .closeWith .noStatus "", .report (.message "hello"),
      .close, .report (.closed .normal "" true), .query]
    scene.Tacit ∧
      ((run scene steps).flatMap Frame.notices).map Notice.kind = [.opened, .message, .closed] ∧
      statesAfter steps (run scene steps).tail = [some .opened, some .opened, some .closed] := by
  intro scene steps
  have tacit : scene.Tacit := by
    unfold Scene.Tacit
    decide
  have bare := undisturbed_of_run scene tacit steps
  refine ⟨tacit, ?_, ?_⟩
  · rw [bare.1]
    decide +kernel
  · rw [bare.2.2.1]
    decide +kernel

end Rehearsal

end WebSocketClient
