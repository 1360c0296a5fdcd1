import Mathlib.Data.List.Forall2
import WebSocketClient.Proofs.Rehearsal.Faithful

/-!
# Scripts without the calls of the host

A host calls its connection: with a request to send or to close, or for what it can know.  The bare
script is what is left of a script without these calls, wherever they are made: between the steps of
the transport, inside the reactions to calls, or on threads (`Step.bareAll`, `Scene.bare`).

A rehearsal of a script is compared with one of its bare script.  They are alike if they have in
common all that does not depend on the calls that were left out, and if their reactions pair up
(`Alike`).  In the full script reactions to commands may have been used up, to which the bare script
never comes.
-/

namespace WebSocketClient

set_option autoImplicit false

/-! ## Calls of the host -/

/-- The transport is asked to carry out a command. -/
def CallKind.isCommand : CallKind → Bool
  | send | close => true
  | connect | notice _ => false

namespace Step

/-- The host calls its connection: with a request, or for what it can know. -/
def isHostCall : Step → Bool
  | send _ | close | closeWith .. | query => true
  | report _ | emit _ | inspect | describe | dropHandle | serve _ | thread _ | poll _ | take
  | dropReader => false

mutual

/-- A step without the calls of the host that are made during it. -/
def bare : Step → Step
  | thread steps => thread (bareAll steps)
  | report signal => report signal
  | emit signal => emit signal
  | inspect => inspect
  | send payload => send payload
  | close => close
  | closeWith code reason => closeWith code reason
  | query => query
  | describe => describe
  | dropHandle => dropHandle
  | serve service => serve service
  | poll stream => poll stream
  | take => take
  | dropReader => dropReader

/-- Steps without the calls of the host. -/
def bareAll : List Step → List Step
  | [] => []
  | step :: steps => if step.isHostCall then bareAll steps else step.bare :: bareAll steps

end

mutual

/-- The step reports no signal itself. -/
def isSilent : Step → Bool
  | report _ | emit _ => false
  | thread steps => allSilent steps
  | inspect | send _ | close | closeWith .. | query | describe | dropHandle | serve _ | poll _
  | take | dropReader => true

/-- None of the steps reports a signal itself. -/
def allSilent : List Step → Bool
  | [] => true
  | step :: steps => step.isSilent && allSilent steps

end

theorem isSilent_of_isHostCall {step : Step} (asks : step.isHostCall) : step.isSilent := by
  cases step <;> first | rfl | cases asks

end Step

/-- A reaction without the calls of the host. -/
def Reaction.bare (reaction : Reaction) : Reaction :=
  { reaction with steps := Step.bareAll reaction.steps }

namespace Rehearsal

/-- A scene without the calls of the host. -/
def Scene.bare (scene : Scene) : Scene :=
  { scene with reactions := scene.reactions.map Reaction.bare }

/-- The methods of the transport report no signal: they leave it to the transport to report what
comes of a command. -/
def Scene.Tacit (scene : Scene) : Prop :=
  ∀ reaction ∈ scene.reactions, reaction.call.isCommand → Step.allSilent reaction.steps

end Rehearsal

/-! ## Reactions side by side -/

/-- A reaction in the full script and in the bare one.  The bare script may have more uses of a
reaction to a command left, but then nothing is reported by that reaction. -/
structure Reaction.Pairs (full bare : Reaction) : Prop where
  call_eq : bare.call = full.call
  steps_eq : bare.steps = Step.bareAll full.steps
  silent : full.call.isCommand → Step.allSilent full.steps
  uses_eq : full.call.isCommand = false → bare.uses = full.uses

/-- The reactions of the two scripts. -/
abbrev Reaction.PairsAll : List Reaction → List Reaction → Prop :=
  List.Forall₂ Reaction.Pairs

namespace Reaction.PairsAll

variable {full bare : List Reaction}

/-- A call that both scripts make is reacted to in both. -/
theorem take {call : CallKind} (shared : call.isCommand = false) (pairs : PairsAll full bare) :
    (takeReaction call full = none ∧ takeReaction call bare = none) ∨
      ∃ steps fullAfter bareAfter, takeReaction call full = some (steps, fullAfter) ∧
        takeReaction call bare = some (Step.bareAll steps, bareAfter) ∧
        PairsAll fullAfter bareAfter := by
  induction pairs with
  | nil => exact .inl ⟨rfl, rfl⟩
  | @cons one other full bare pair pairs ih =>
      by_cases applies : one.call = call ∧ one.uses ≠ 0
      · have uses := pair.uses_eq (by rw [applies.1]; exact shared)
        have alsoApplies : other.call = call ∧ other.uses ≠ 0 := by
          rw [pair.call_eq, uses]
          exact applies
        refine .inr ⟨one.steps, { one with uses := one.uses - 1 } :: full,
          { other with uses := other.uses - 1 } :: bare, if_pos applies, ?_, .cons ?_ pairs⟩
        · rw [takeReaction, if_pos alsoApplies, pair.steps_eq]
        · exact ⟨pair.call_eq, pair.steps_eq, pair.silent, fun _ => congrArg (· - 1) uses⟩
      · have neither : ¬(other.call = call ∧ other.uses ≠ 0) := by
          rintro ⟨same, left⟩
          rw [pair.call_eq] at same
          rw [pair.uses_eq (by rw [same]; exact shared)] at left
          exact applies ⟨same, left⟩
        simp only [takeReaction, if_neg applies, if_neg neither]
        obtain ⟨none, alsoNone⟩ | ⟨steps, fullAfter, bareAfter, taken, alsoTaken, after⟩ := ih
        · exact .inl ⟨by rw [none]; rfl, by rw [alsoNone]; rfl⟩
        · exact .inr ⟨steps, one :: fullAfter, other :: bareAfter, by rw [taken]; rfl,
            by rw [alsoTaken]; rfl, .cons pair after⟩

/-- A command is reacted to in the full script, and nothing is reported. -/
theorem takeCommand {call : CallKind} (command : call.isCommand) (pairs : PairsAll full bare)
    {steps : List Step} {after : List Reaction}
    (taken : takeReaction call full = some (steps, after)) :
    Step.allSilent steps ∧ PairsAll after bare := by
  induction pairs generalizing after with
  | nil => cases taken
  | @cons one other full bare pair pairs ih =>
      simp only [takeReaction] at taken
      split at taken
      · rename_i applies
        cases taken
        have isCommand : one.call.isCommand = true := by
          rw [applies.1]
          exact command
        refine ⟨pair.silent isCommand, .cons ⟨pair.call_eq, pair.steps_eq, pair.silent, ?_⟩ pairs⟩
        exact fun shared => absurd (isCommand.symm.trans shared) Bool.noConfusion
      · obtain ⟨⟨found, rest⟩, later, same⟩ := Option.map_eq_some_iff.mp taken
        cases same
        obtain ⟨silent, others⟩ := ih later
        exact ⟨silent, .cons pair others⟩

end Reaction.PairsAll

/-- The reactions of a scene whose transport is tacit. -/
theorem Rehearsal.Scene.Tacit.pairsAll {scene : Scene} (tacit : scene.Tacit) :
    Reaction.PairsAll scene.reactions scene.bare.reactions := by
  have pairs (reactions : List Reaction)
      (silent : ∀ reaction ∈ reactions, reaction.call.isCommand →
        Step.allSilent reaction.steps) :
      Reaction.PairsAll reactions (reactions.map Reaction.bare) := by
    induction reactions with
    | nil => exact .nil
    | cons reaction reactions ih =>
        obtain ⟨first, others⟩ := List.forall_mem_cons.mp silent
        exact .cons ⟨rfl, rfl, first, fun _ => rfl⟩ (ih others)
  exact pairs scene.reactions tacit

/-! ## What is seen of a connection -/

/-- What an entry shows of a connection, apart from the commands for its transport: the notice that
is told, and what could be seen.  What the methods of the transport saw is not counted. -/
def Entry.glimpse? : Entry → Option (Option Notice × Look)
  | call (.notice notice) sight => some (some notice, .whole sight.state sight.record)
  | call (.connect ..) sight => some (none, .whole sight.state sight.record)
  | call (.send _) _ | call (.close ..) _ => none
  | step during .inspect outcome =>
    if during.isCommand then none else outcome.look?.map fun look => (none, look)
  | step .. => none

theorem Entry.notice?_eq (entry : Entry) : entry.notice? = entry.glimpse?.bind Prod.fst := by
  cases entry with
  | call call sight => cases call <;> rfl
  | step during step outcome =>
      cases step with
      | inspect =>
          simp only [glimpse?]
          split
          · rfl
          · cases outcome.look? <;> rfl
      | _ => rfl

/-- A call of the host is no glimpse. -/
theorem Entry.glimpse?_of_isHostCall {step : Step} (asks : step.isHostCall) (during : CallKind)
    (outcome : Outcome) : (Entry.step during step outcome).glimpse? = none := by
  cases step <;> first | rfl | cases asks

/-- Neither is a step inside a command. -/
theorem Entry.glimpse?_of_isCommand {during : CallKind} (command : during.isCommand) (step : Step)
    (outcome : Outcome) : (Entry.step during step outcome).glimpse? = none := by
  cases step with
  | inspect => exact if_pos command
  | _ => rfl

namespace Rehearsal

/-- What the two scripts have in common. -/
structure Common where
  lifecycle : Lifecycle
  sink : Bool
  listener : Listener
  reported : List Signal
  glimpses : List (Option Notice × Look)

/-- What a rehearsal has in common with one of the bare script. -/
def common (rehearsal : Rehearsal) : Common :=
  ⟨rehearsal.lifecycle, rehearsal.sink, rehearsal.listener, rehearsal.reported,
    rehearsal.log.filterMap Entry.glimpse?⟩

theorem common_record (rehearsal : Rehearsal) (entry : Entry) :
    (rehearsal.record entry).common =
      { rehearsal.common with
        glimpses := rehearsal.common.glimpses ++ entry.glimpse?.toList } := by
  unfold common record
  cases seen : entry.glimpse? <;> simp [seen]

/-- A rehearsal of the full script beside one of the bare script. -/
structure Alike (full bare : Rehearsal) : Prop where
  common_eq : full.common = bare.common
  pairs : Reaction.PairsAll full.reactions bare.reactions

namespace Alike

variable {full bare fullAfter bareAfter : Rehearsal}

theorem lifecycle_eq (alike : Alike full bare) : full.lifecycle = bare.lifecycle :=
  congrArg Common.lifecycle alike.common_eq

theorem sink_eq (alike : Alike full bare) : full.sink = bare.sink :=
  congrArg Common.sink alike.common_eq

theorem listener_eq (alike : Alike full bare) : full.listener = bare.listener :=
  congrArg Common.listener alike.common_eq

theorem reported_eq (alike : Alike full bare) : full.reported = bare.reported :=
  congrArg Common.reported alike.common_eq

/-- Something changes in both scripts that they need not have in common. -/
theorem of_same (alike : Alike full bare) (full_eq : fullAfter.common = full.common)
    (fullReactions_eq : fullAfter.reactions = full.reactions)
    (bare_eq : bareAfter.common = bare.common)
    (bareReactions_eq : bareAfter.reactions = bare.reactions) : Alike fullAfter bareAfter where
  common_eq := full_eq.trans (alike.common_eq.trans bare_eq.symm)
  pairs := by
    rw [fullReactions_eq, bareReactions_eq]
    exact alike.pairs

/-- Something changes in the full script alone. -/
theorem of_full (alike : Alike full bare) (common_eq : fullAfter.common = full.common)
    (reactions_eq : fullAfter.reactions = full.reactions) : Alike fullAfter bare :=
  alike.of_same common_eq reactions_eq rfl rfl

/-- The same glimpse is recorded in both. -/
theorem record (alike : Alike full bare) {one other : Entry}
    (same : one.glimpse? = other.glimpse?) : Alike (full.record one) (bare.record other) where
  common_eq := by rw [common_record, common_record, alike.common_eq, same]
  pairs := alike.pairs

/-- No glimpse is recorded in the full script. -/
theorem record_unseen (alike : Alike full bare) {entry : Entry} (unseen : entry.glimpse? = none) :
    Alike (full.record entry) bare := by
  refine alike.of_full ?_ rfl
  rw [common_record, unseen, Option.toList_none, List.append_nil]

/-- A step aside is taken in both scripts, with whatever it changes in each. -/
theorem asideBoth (alike : Alike full bare) (react : React) {step : Step} (aside : step.isAside) :
    Alike (perform react step full).2 (perform react step bare).2 := by
  obtain ⟨handle, service, mailbox, same⟩ := perform_of_isAside react aside full
  obtain ⟨bareHandle, bareService, bareMailbox, bareSame⟩ := perform_of_isAside react aside bare
  rw [same, bareSame]
  exact alike.of_same rfl rfl rfl rfl

/-- A step aside is taken in the full script alone. -/
theorem aside (alike : Alike full bare) (react : React) {step : Step} (aside : step.isAside) :
    Alike (perform react step full).2 bare := by
  obtain ⟨handle, service, mailbox, same⟩ := perform_of_isAside react aside full
  rw [same]
  exact alike.of_full rfl rfl

theorem hear (alike : Alike full bare) (signal : Signal) :
    Alike (full.hear signal) (bare.hear signal) where
  common_eq := by
    have heard (rehearsal : Rehearsal) : (rehearsal.hear signal).common =
        { rehearsal.common with
          lifecycle := (rehearsal.common.lifecycle.accept signal).1
          reported := rehearsal.common.reported ++ [signal] } := rfl
    rw [heard, heard, alike.common_eq]
  pairs := alike.pairs

end Alike

end Rehearsal

end WebSocketClient
