import WebSocketClient.Proofs.Form
import WebSocketClient.Proofs.Rehearsal.Moment

/-!
# Scripts beside their canonical form

Close codes enter a script in the signals of the transport, in the requests of the host, and in the
failures that a transport may answer with; and all this can stand in the steps, in the reactions to
calls and on threads.  Here a script is played beside its canonical form, in which every code has
the form that its number decides.

The second rehearsal mirrors the first: it is the canonical form of it, but for the descriptions in
its log (`Mirrors`), which alone show the form of a code.  Every step keeps this up, as long as the
code inside calls does (`Blind.perform`), and the code inside calls does so to any depth
(`blind_reactAll`).
-/

namespace WebSocketClient

set_option autoImplicit false

/-! ## Canonical scripts -/

/-- A mailbox with the codes in its notices in canonical form. -/
def Mailbox.canonical (mailbox : Mailbox) : Mailbox :=
  { mailbox with waiting := mailbox.waiting.map Notice.canonical }

/-- What a reader finds, with the code in canonical form. -/
def Poll.canonical : Poll → Poll
  | notice found => notice found.canonical
  | ended => ended
  | pending => pending

/-- A call with its code in canonical form, if it has one. -/
def Call.canonical : Call → Call
  | connect endpoint settings => connect endpoint settings
  | notice told => notice told.canonical
  | send payload => send payload
  | close code reason => close code.canonical reason

/-- What can be seen, with the code of the record in canonical form. -/
def Sight.canonical (sight : Sight) : Sight :=
  { sight with record := sight.record.map CloseRecord.canonical }

/-- A service whose answer has its code in canonical form, if it has one. -/
def Service.canonical : Service → Service
  | present answer => present (answer.mapError Failure.canonical)
  | gone => gone

mutual

/-- A step with all codes in canonical form. -/
def Step.canonical : Step → Step
  | .report signal => .report signal.canonical
  | .emit signal => .emit signal.canonical
  | .inspect => .inspect
  | .send payload => .send payload
  | .close => .close
  | .closeWith code reason => .closeWith code.canonical reason
  | .query => .query
  | .describe => .describe
  | .dropHandle => .dropHandle
  | .serve service => .serve service.canonical
  | .thread steps => .thread (Step.canonicalAll steps)
  | .poll stream => .poll stream
  | .take => .take
  | .dropReader => .dropReader

/-- Steps with all codes in canonical form. -/
def Step.canonicalAll : List Step → List Step
  | [] => []
  | step :: steps => step.canonical :: Step.canonicalAll steps

end

/-- What a host can know, with the code of the record in canonical form. -/
def Snapshot.canonical (snapshot : Snapshot) : Snapshot :=
  { snapshot with record := snapshot.record.map CloseRecord.canonical }

mutual

/-- An outcome with all codes in canonical form, and without the text of a description. -/
def Outcome.canonical : Outcome → Outcome
  | .done => .done
  | .refused failure => .refused failure.canonical
  | .noConnection => .noConnection
  | .sink state text => .sink state text
  | .snapshot shown => .snapshot shown.canonical
  | .description _ => .description ""
  | .dropped existed => .dropped existed
  | .several all => .several (Outcome.canonicalAll all)
  | .noReader => .noReader
  | .polled poll => .polled poll.canonical
  | .taken notice => .taken (notice.map Notice.canonical)

/-- Outcomes with all codes in canonical form. -/
def Outcome.canonicalAll : List Outcome → List Outcome
  | [] => []
  | outcome :: outcomes => outcome.canonical :: Outcome.canonicalAll outcomes

end

/-- A reaction with all codes in canonical form. -/
def Reaction.canonical (reaction : Reaction) : Reaction :=
  { reaction with steps := Step.canonicalAll reaction.steps }

/-- An entry with all codes in canonical form. -/
def Entry.canonical : Entry → Entry
  | call made sight => .call made.canonical sight.canonical
  | step during taken outcome => .step during taken.canonical outcome.canonical

namespace Rehearsal

/-- A rehearsal with all codes in canonical form. -/
def canonical (rehearsal : Rehearsal) : Rehearsal :=
  { lifecycle := rehearsal.lifecycle.canonical
    sink := rehearsal.sink
    handle := rehearsal.handle
    service := rehearsal.service.canonical
    listener := rehearsal.listener
    mailbox := rehearsal.mailbox.canonical
    reactions := rehearsal.reactions.map Reaction.canonical
    reported := rehearsal.reported.map Signal.canonical
    asked := rehearsal.asked.map fun (command, sight) => (command.canonical, sight.canonical)
    log := rehearsal.log.map Entry.canonical }

/-- A scene with all codes in canonical form. -/
def Scene.canonical (scene : Scene) : Scene :=
  { scene with
    refusal := scene.refusal.map Failure.canonical
    service := scene.service.canonical
    reactions := scene.reactions.map Reaction.canonical }

/-- What a step shows, with all codes in canonical form. -/
def Frame.canonical (frame : Frame) : Frame :=
  { frame with outcome := frame.outcome.canonical, log := frame.log.map Entry.canonical }

end Rehearsal

/-! ## Canonical forms once more -/

@[simp] theorem Sight.canonical_canonical (sight : Sight) :
    sight.canonical.canonical = sight.canonical := by
  simp [canonical, Function.comp_def]

@[simp] theorem Call.canonical_canonical (call : Call) :
    call.canonical.canonical = call.canonical := by
  cases call <;> simp [canonical]

theorem Failure.mapError_canonical_canonical (answer : Except Failure Unit) :
    (answer.mapError Failure.canonical).mapError Failure.canonical =
      answer.mapError Failure.canonical := by
  cases answer <;> simp [Except.mapError]

mutual

@[simp] theorem Step.canonical_canonical : ∀ step : Step, step.canonical.canonical = step.canonical
  | .report signal | .emit signal => by simp [Step.canonical]
  | .closeWith code reason => by simp [Step.canonical]
  | .serve (.present answer) => by
      simp [Step.canonical, Service.canonical, Failure.mapError_canonical_canonical]
  | .thread steps => by simp [Step.canonical, Step.canonicalAll_canonicalAll steps]
  | .serve .gone | .inspect | .send _ | .close | .query | .describe | .dropHandle | .poll _ | .take
  | .dropReader => by simp [Step.canonical, Service.canonical]

theorem Step.canonicalAll_canonicalAll : ∀ steps : List Step,
    Step.canonicalAll (Step.canonicalAll steps) = Step.canonicalAll steps
  | [] => rfl
  | step :: steps => by
      simp [Step.canonicalAll, Step.canonical_canonical step, Step.canonicalAll_canonicalAll steps]

end

theorem usesLeft_canonical (reactions : List Reaction) :
    usesLeft (reactions.map Reaction.canonical) = usesLeft reactions := by
  induction reactions with
  | nil => rfl
  | cons reaction reactions ih =>
      simp only [List.map_cons, usesLeft, ih]
      rfl

/-- The canonical script reacts to a call as the script does. -/
theorem takeReaction_canonical (call : CallKind) (reactions : List Reaction) :
    takeReaction call (reactions.map Reaction.canonical) =
      (takeReaction call reactions).map fun (steps, rest) =>
        (Step.canonicalAll steps, rest.map Reaction.canonical) := by
  induction reactions with
  | nil => rfl
  | cons reaction reactions ih =>
      simp only [List.map_cons, takeReaction, ih]
      by_cases applies : reaction.call = call ∧ reaction.uses ≠ 0
      · rw [if_pos (show reaction.canonical.call = call ∧ reaction.canonical.uses ≠ 0 from applies),
          if_pos applies]
        rfl
      · rw [if_neg (show ¬(reaction.canonical.call = call ∧ reaction.canonical.uses ≠ 0) from
          applies), if_neg applies]
        cases takeReaction call reactions <;> rfl

namespace Mailbox

theorem post_canonical (mailbox : Mailbox) (notice : Notice) :
    mailbox.canonical.post notice.canonical = (mailbox.post notice).canonical := by
  obtain ⟨waiting, writer, reader⟩ := mailbox
  simp only [post, Notice.isClosing_canonical]
  cases writer <;> cases reader <;> cases notice.isClosing <;> simp [canonical]

theorem take?_canonical (mailbox : Mailbox) : mailbox.canonical.take? =
    (mailbox.take?.1.map Notice.canonical, mailbox.take?.2.canonical) := by
  obtain ⟨waiting, writer, reader⟩ := mailbox
  cases waiting <;> rfl

theorem poll_canonical (mailbox : Mailbox) :
    mailbox.canonical.poll = (mailbox.poll.1.canonical, mailbox.poll.2.canonical) := by
  obtain ⟨waiting, writer, reader⟩ := mailbox
  cases waiting with
  | nil => cases writer <;> rfl
  | cons notice waiting => rfl

end Mailbox

/-! ## Mirrors -/

namespace Rehearsal

/-- A rehearsal is the canonical form of another one, but for the descriptions in its log. -/
def Mirrors (mirror original : Rehearsal) : Prop :=
  ∃ entries, entries.map Entry.canonical = original.log.map Entry.canonical ∧
    mirror = { original.canonical with log := entries }

/-- The two have come to the same, and one of them mirrors the other. -/
def Matches (mirror original : Outcome × Rehearsal) : Prop :=
  mirror.1.canonical = original.1.canonical ∧ Mirrors mirror.2 original.2

namespace Mirrors

variable {mirror original : Rehearsal}

theorem lifecycle_eq (mirrors : Mirrors mirror original) :
    mirror.lifecycle = original.lifecycle.canonical := by
  obtain ⟨entries, -, rfl⟩ := mirrors
  rfl

theorem state_eq (mirrors : Mirrors mirror original) :
    mirror.lifecycle.state = original.lifecycle.state := by
  rw [mirrors.lifecycle_eq]
  rfl

theorem sink_eq (mirrors : Mirrors mirror original) : mirror.sink = original.sink := by
  obtain ⟨entries, -, rfl⟩ := mirrors
  rfl

theorem handle_eq (mirrors : Mirrors mirror original) : mirror.handle = original.handle := by
  obtain ⟨entries, -, rfl⟩ := mirrors
  rfl

theorem sight_eq (mirrors : Mirrors mirror original) :
    mirror.sight = original.sight.canonical := by
  obtain ⟨entries, -, rfl⟩ := mirrors
  rfl

theorem log_eq (mirrors : Mirrors mirror original) :
    mirror.log.map Entry.canonical = original.log.map Entry.canonical := by
  obtain ⟨entries, same, rfl⟩ := mirrors
  exact same

/-- The same entry is made in both logs, perhaps with another description. -/
theorem record (mirrors : Mirrors mirror original) {entry other : Entry}
    (same : entry.canonical = other.canonical) :
    Mirrors (mirror.record entry) (original.record other) := by
  obtain ⟨entries, logs, rfl⟩ := mirrors
  refine ⟨entries ++ [entry], ?_, rfl⟩
  show _ = (original.log ++ [other]).map Entry.canonical
  rw [List.map_append, List.map_append, logs, List.map_singleton, List.map_singleton, same]

theorem hear (mirrors : Mirrors mirror original) (signal : Signal) :
    Mirrors (mirror.hear signal.canonical) (original.hear signal) := by
  obtain ⟨entries, logs, rfl⟩ := mirrors
  refine ⟨entries, logs, ?_⟩
  have accepted := original.lifecycle.accept_canonical signal
  simp only [Rehearsal.hear, canonical, accepted, List.map_append, List.map_singleton]

theorem mailbox_eq (mirrors : Mirrors mirror original) :
    mirror.mailbox = original.mailbox.canonical := by
  obtain ⟨entries, -, rfl⟩ := mirrors
  rfl

/-- Both mailboxes change alike. -/
theorem withMailbox (mirrors : Mirrors mirror original) {mailbox other : Mailbox}
    (same : mailbox = other.canonical) :
    Mirrors { mirror with mailbox } { original with mailbox := other } := by
  subst same
  obtain ⟨entries, logs, rfl⟩ := mirrors
  exact ⟨entries, logs, rfl⟩

theorem ask (mirrors : Mirrors mirror original) (command : Command) :
    Mirrors { mirror with asked := mirror.asked ++ [(command.canonical, mirror.sight)] }
      { original with asked := original.asked ++ [(command, original.sight)] } := by
  have sights := mirrors.sight_eq
  obtain ⟨entries, logs, rfl⟩ := mirrors
  refine ⟨entries, logs, ?_⟩
  simp only [canonical, List.map_append, List.map_singleton] at sights ⊢
  rw [sights]

/-- The two rehearsals show the same, with all codes in canonical form. -/
theorem canonical_eq (mirrors : Mirrors mirror original) :
    mirror.canonical = original.canonical := by
  obtain ⟨entries, logs, rfl⟩ := mirrors
  have services : original.service.canonical.canonical = original.service.canonical := by
    cases original.service <;> simp [Service.canonical, Failure.mapError_canonical_canonical]
  have reactions (reaction : Reaction) : reaction.canonical.canonical = reaction.canonical := by
    simp [Reaction.canonical, Step.canonicalAll_canonicalAll]
  simp [canonical, Mailbox.canonical, services, reactions, logs, Function.comp_def]

end Mirrors

/-- A way of running the code inside calls that does not see the forms of codes. -/
def Blind (react : React) : Prop :=
  ∀ during steps mirror original, Mirrors mirror original →
    Mirrors (react during (Step.canonicalAll steps) mirror) (react during steps original)

namespace Blind

variable {react : React} {mirror original : Rehearsal}

section Calls

variable (blind : Blind react) (mirrors : Mirrors mirror original)

include blind mirrors

theorem respond (kind : CallKind) :
    Mirrors (Rehearsal.respond react kind mirror) (Rehearsal.respond react kind original) := by
  obtain ⟨entries, logs, rfl⟩ := mirrors
  have taken := takeReaction_canonical kind original.reactions
  unfold Rehearsal.respond
  simp only [canonical, taken]
  cases takeReaction kind original.reactions with
  | none => exact ⟨entries, logs, rfl⟩
  | some found =>
      obtain ⟨steps, rest⟩ := found
      exact blind kind steps _ _ ⟨entries, logs, rfl⟩

theorem enter (call : Call) :
    Mirrors (Rehearsal.enter react call.canonical mirror)
      (Rehearsal.enter react call original) := by
  rw [enter_eq, enter_eq]
  have kinds : call.canonical.kind = call.kind := by
    cases call <;> simp [Call.canonical, Call.kind]
  rw [kinds]
  refine blind.respond (mirrors.record ?_) call.kind
  simp [Entry.canonical, mirrors.sight_eq]

theorem deliver (notice : Notice) :
    Mirrors (Rehearsal.deliver react notice.canonical mirror)
      (Rehearsal.deliver react notice original) := by
  have listeners : mirror.listener = original.listener := by
    obtain ⟨entries, -, rfl⟩ := mirrors
    rfl
  have posts : mirror.listener.posts = original.listener.posts := by rw [listeners]
  have calls :
      mirror.listener.calls notice.canonical.kind = original.listener.calls notice.kind := by
    rw [listeners, Notice.kind_canonical]
  unfold Rehearsal.deliver
  rw [posts, calls]
  split
  · exact mirrors.withMailbox (by rw [mirrors.mailbox_eq, Mailbox.post_canonical])
  · split
    · exact blind.enter mirrors (.notice notice)
    · exact mirrors

theorem command (command : Command) :
    (mirror.command react command.canonical).1 =
        (original.command react command).1.mapError Failure.canonical ∧
      Mirrors (mirror.command react command.canonical).2 (original.command react command).2 := by
  have asked := mirrors.ask command
  have entered := blind.enter asked (.ofCommand command)
  have calls : (Call.ofCommand command).canonical = .ofCommand command.canonical := by
    cases command <;> rfl
  rw [calls] at entered
  obtain ⟨entries, logs, rfl⟩ := mirrors
  obtain ⟨lifecycle, sink, handle, service, listener, mailbox, reactions, reported, others, log⟩ :=
    original
  cases service with
  | gone => exact ⟨rfl, asked⟩
  | present answer => exact ⟨rfl, entered⟩

theorem report (signal : Signal) :
    Matches (reportStep react signal.canonical mirror) (reportStep react signal original) := by
  have delivered (notices : List Notice) {mirror original : Rehearsal}
      (mirrors : Mirrors mirror original) :
      Mirrors
        ((notices.map Notice.canonical).foldl
          (fun current notice => Rehearsal.deliver react notice current) mirror)
        (notices.foldl (fun current notice => Rehearsal.deliver react notice current)
          original) := by
    induction notices generalizing mirror original with
    | nil => exact mirrors
    | cons notice notices ih => exact ih (blind.deliver mirrors notice)
  unfold reportStep
  rw [mirrors.sink_eq]
  split
  · refine ⟨rfl, ?_⟩
    simp only [dispatch_emit]
    rw [mirrors.lifecycle_eq, Lifecycle.accept_canonical]
    exact delivered _ (mirrors.hear signal)
  · exact ⟨rfl, mirrors⟩

theorem request (verdict : Verdict) :
    Matches (requestStep react verdict.canonical mirror) (requestStep react verdict original) := by
  unfold requestStep
  rw [mirrors.handle_eq]
  split
  · cases verdict with
    | refused failure => exact ⟨by simp [Rehearsal.request, Verdict.canonical, Outcome.ofResult,
        Outcome.canonical], mirrors⟩
    | settled => exact ⟨rfl, mirrors⟩
    | passed command =>
        obtain ⟨answers, after⟩ := blind.command mirrors command
        refine ⟨?_, after⟩
        show (Outcome.ofResult (mirror.command react command.canonical).1).canonical =
          (Outcome.ofResult (original.command react command).1).canonical
        rw [answers]
        cases (original.command react command).1 <;>
          simp [Except.mapError, Outcome.ofResult, Outcome.canonical]
  · exact ⟨rfl, mirrors⟩

end Calls

mutual

/-- A step in canonical form comes to the same. -/
theorem perform (blind : Blind react) :
    ∀ (step : Step) {mirror original : Rehearsal}, Mirrors mirror original →
      Matches (Rehearsal.perform react step.canonical mirror)
        (Rehearsal.perform react step original)
  | .report signal, _, _, mirrors => by
      simpa only [Step.canonical, Rehearsal.perform] using blind.report mirrors signal
  | .emit signal, _, _, mirrors => by
      simpa only [Step.canonical, Rehearsal.perform] using blind.report mirrors signal
  | .inspect, mirror, original, mirrors => by
      simp only [Step.canonical, Rehearsal.perform, mirrors.sink_eq, mirrors.lifecycle_eq]
      split <;> exact ⟨rfl, mirrors⟩
  | .send payload, _, original, mirrors => by
      have verdict : Verdict.ofSend original.lifecycle.state payload =
          (Verdict.ofSend original.lifecycle.state payload).canonical :=
        Verdict.ofRequest_canonical original.lifecycle.state (.send payload)
      have requested := blind.request mirrors (.ofSend original.lifecycle.state payload)
      simp only [Step.canonical, Rehearsal.perform, mirrors.state_eq]
      rwa [← verdict] at requested
  | .close, _, original, mirrors => by
      have verdict : Verdict.ofClose original.lifecycle.state .normal "" =
          (Verdict.ofClose original.lifecycle.state .normal "").canonical :=
        Verdict.ofRequest_canonical original.lifecycle.state .normalClose
      have requested := blind.request mirrors (.ofClose original.lifecycle.state .normal "")
      simp only [Step.canonical, Rehearsal.perform, mirrors.state_eq]
      rwa [← verdict] at requested
  | .closeWith code reason, _, original, mirrors => by
      have verdict : Verdict.ofClose original.lifecycle.state code.canonical reason =
          (Verdict.ofClose original.lifecycle.state code reason).canonical :=
        Verdict.ofRequest_canonical original.lifecycle.state (.close code reason)
      have requested := blind.request mirrors (.ofClose original.lifecycle.state code reason)
      simp only [Step.canonical, Rehearsal.perform, mirrors.state_eq]
      rwa [← verdict] at requested
  | .query, mirror, original, mirrors => by
      simp only [Step.canonical, Rehearsal.perform, mirrors.handle_eq, mirrors.lifecycle_eq]
      cases original.handle with
      | none => exact ⟨rfl, mirrors⟩
      | some endpoint =>
          refine ⟨?_, mirrors⟩
          simp [Outcome.canonical, Snapshot.canonical, Lifecycle.canonical, Function.comp_def]
  | .describe, mirror, original, mirrors => by
      simp only [Step.canonical, Rehearsal.perform, mirrors.handle_eq]
      cases original.handle with
      | none => exact ⟨rfl, mirrors⟩
      | some endpoint => exact ⟨by simp only [Outcome.canonical], mirrors⟩
  | .dropHandle, mirror, original, mirrors => by
      simp only [Step.canonical, Rehearsal.perform, mirrors.handle_eq]
      obtain ⟨entries, logs, rfl⟩ := mirrors
      exact ⟨rfl, entries, logs, rfl⟩
  | .serve service, mirror, original, mirrors => by
      simp only [Step.canonical, Rehearsal.perform]
      obtain ⟨entries, logs, rfl⟩ := mirrors
      exact ⟨rfl, entries, logs, rfl⟩
  | .thread steps, _, _, mirrors => by
      obtain ⟨outcomes, after⟩ := performAll blind steps mirrors
      simp only [Step.canonical, Rehearsal.perform]
      exact ⟨congrArg Outcome.several outcomes, after⟩
  | .poll stream, mirror, original, mirrors => by
      have reader : mirror.mailbox.reader = original.mailbox.reader := by
        rw [mirrors.mailbox_eq]
        rfl
      have polled : mirror.mailbox.poll = _ := mirrors.mailbox_eq ▸ original.mailbox.poll_canonical
      simp only [Step.canonical, Rehearsal.perform, reader]
      split
      · refine ⟨?_, mirrors.withMailbox (congrArg Prod.snd polled)⟩
        simp only [polled, Outcome.canonical]
        cases original.mailbox.poll.1 <;> simp [Poll.canonical]
      · exact ⟨rfl, mirrors⟩
  | .take, mirror, original, mirrors => by
      have reader : mirror.mailbox.reader = original.mailbox.reader := by
        rw [mirrors.mailbox_eq]
        rfl
      have taken : mirror.mailbox.take? = _ := mirrors.mailbox_eq ▸ original.mailbox.take?_canonical
      simp only [Step.canonical, Rehearsal.perform, reader]
      split
      · refine ⟨?_, mirrors.withMailbox (congrArg Prod.snd taken)⟩
        simp [taken, Outcome.canonical, Function.comp_def]
      · exact ⟨rfl, mirrors⟩
  | .dropReader, mirror, original, mirrors => by
      have reader : mirror.mailbox.reader = original.mailbox.reader := by
        rw [mirrors.mailbox_eq]
        rfl
      simp only [Step.canonical, Rehearsal.perform, reader]
      refine ⟨rfl, mirrors.withMailbox ?_⟩
      rw [mirrors.mailbox_eq]
      rfl

/-- Several steps in canonical form come to the same. -/
theorem performAll (blind : Blind react) :
    ∀ (steps : List Step) {mirror original : Rehearsal}, Mirrors mirror original →
      Outcome.canonicalAll (Rehearsal.performAll react (Step.canonicalAll steps) mirror).1 =
          Outcome.canonicalAll (Rehearsal.performAll react steps original).1 ∧
        Mirrors (Rehearsal.performAll react (Step.canonicalAll steps) mirror).2
          (Rehearsal.performAll react steps original).2
  | [], _, _, mirrors => by
      simp only [Step.canonicalAll, Rehearsal.performAll]
      exact ⟨trivial, mirrors⟩
  | step :: steps, _, _, mirrors => by
      obtain ⟨outcome, next⟩ := perform blind step mirrors
      obtain ⟨outcomes, after⟩ := performAll blind steps next
      simp only [Step.canonicalAll, Rehearsal.performAll, Outcome.canonicalAll, outcome, outcomes]
      exact ⟨trivial, after⟩

end

theorem performDuring (blind : Blind react) (mirrors : Mirrors mirror original) (during : CallKind)
    (step : Step) :
    Mirrors (Rehearsal.performDuring react during step.canonical mirror)
      (Rehearsal.performDuring react during step original) := by
  obtain ⟨outcome, after⟩ := blind.perform step mirrors
  exact after.record (by simp only [Entry.canonical, Step.canonical_canonical, outcome])

end Blind

/-- The code inside calls never sees the forms of codes, however deep it stands. -/
theorem blind_play (depth : Nat) : Blind (play depth) := by
  induction depth with
  | zero => exact fun _ _ _ _ mirrors => mirrors
  | succ depth blind =>
      intro during steps mirror original mirrors
      induction steps generalizing mirror original with
      | nil => exact mirrors
      | cons step steps ih => exact ih _ _ (blind.performDuring mirrors during step)

theorem blind_reactAll : Blind reactAll := by
  intro during steps mirror original mirrors
  have uses : usesLeft mirror.reactions = usesLeft original.reactions := by
    obtain ⟨entries, -, rfl⟩ := mirrors
    exact usesLeft_canonical original.reactions
  unfold reactAll
  rw [uses]
  exact blind_play _ during steps mirror original mirrors

end Rehearsal

end WebSocketClient
