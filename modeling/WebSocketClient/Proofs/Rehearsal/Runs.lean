import WebSocketClient.Proofs.Rehearsal.Accounts
import WebSocketClient.Proofs.Rehearsal.Passage

/-!
# Whole rehearsals

What a script shows is a list of frames, one for each step.  Three laws hold of the frames of every
script, whatever its steps are and however its reactions nest.

* The listener is told the notices of the signals that the transport emits, in their order, and it
  is told the same when the signals come one after another and nobody reacts (`notices_of_run`).
* Whoever looks sees a connection that is not closing, and that has a record exactly if it is
  closed; the state never goes down from one look to the next; and a call of the listener sees what
  its notice announces (`looks_of_run`).
* The end is the farewell of the first terminal signal that is emitted.  The listener is told it and
  nothing else of the end, its record can be seen while it is told, and no other record is ever seen
  (`farewell_of_run`).
-/

namespace WebSocketClient.Rehearsal

set_option autoImplicit false

open Moment (Reaches Faithful Stretch)

/-! ## Frames -/

/-- The notices that ran code of the listener during a step, in the order of the calls. -/
def Frame.notices (frame : Frame) : List Notice :=
  frame.log.filterMap Entry.notice?

/-- What was seen during a step and after it, in order. -/
def Frame.looks (frame : Frame) : List Look :=
  frame.log.filterMap Entry.look? ++ frame.outcome.look?.toList
    ++ (frame.state.map Look.ofState).toList

/-- The frames of the steps that lead from one rehearsal to another. -/
structure Ran (before : Rehearsal) (frames : List Frame) (after : Rehearsal) : Prop where
  log_eq : after.log = before.log ++ frames.flatMap Frame.log
  truthful : ∀ frame ∈ frames, ∀ entry ∈ frame.log, entry.Truthful
  passage : Passage before.lifecycle (frames.flatMap Frame.looks) after.lifecycle

namespace Ran

variable {before middle after : Rehearsal} {frames : List Frame}

theorem refl (rehearsal : Rehearsal) : Ran rehearsal [] rehearsal where
  log_eq := by rw [List.flatMap_nil, List.append_nil]
  truthful := List.forall_mem_nil _
  passage := .refl rehearsal.lifecycle

theorem cons {first : Frame} (head : Ran before [first] middle) (tail : Ran middle frames after) :
    Ran before (first :: frames) after where
  log_eq := by
    rw [tail.log_eq, head.log_eq, List.append_assoc, ← List.flatMap_append, List.singleton_append]
  truthful := by
    intro frame member
    rcases List.mem_cons.mp member with rfl | member
    · exact head.truthful frame (List.mem_singleton_self frame)
    · exact tail.truthful frame member
  passage := by
    rw [← List.singleton_append, List.flatMap_append]
    exact head.passage.trans tail.passage

/-- One step. -/
theorem single {listener : Listener} {outcome : Outcome} (faithful : Faithful listener ⟨[], before⟩)
    (reaches : Reaches ⟨[], before⟩ ⟨[], after⟩) (shows : outcome.Shows after.lifecycle) :
    Ran before [frame before outcome after] after := by
  obtain ⟨later, entries, stretch⟩ := faithful.exists_stretch reaches
  have log : (frame before outcome after).log = entries := by
    show after.log.drop before.log.length = entries
    rw [show after.log = before.log ++ entries from stretch.log_eq, List.drop_left]
  refine ⟨?_, ?_, ?_⟩
  · rw [List.flatMap_singleton, log]
    exact stretch.log_eq
  · intro other member entry
    obtain rfl := List.mem_singleton.mp member
    rw [log]
    exact stretch.truthful entry
  · rw [List.flatMap_singleton, Frame.looks, log]
    refine (stretch.passage.trans (.look? shows later.settled)).trans ?_
    show Passage _ ((frame before outcome after).state.map Look.ofState).toList _
    refine .look? ?_ later.settled
    intro look shown
    obtain ⟨state, seen, rfl⟩ := Option.map_eq_some_iff.mp shown
    unfold frame at seen
    dsimp only at seen
    split at seen
    · cases seen
      exact Look.ofState_shows after.lifecycle
    · cases seen

theorem playSteps {listener : Listener} (steps : List Step) {rehearsal : Rehearsal}
    (faithful : Faithful listener ⟨[], rehearsal⟩) :
    Ran rehearsal (Rehearsal.playSteps steps rehearsal)
      (performAll reactAll steps rehearsal).2 := by
  induction steps generalizing rehearsal with
  | nil =>
      simp only [Rehearsal.playSteps, performAll]
      exact .refl rehearsal
  | cons step steps ih =>
      have reaches := perform_reaches reactAll_momentary step [] rehearsal
      have next := (faithful.exists_stretch reaches).1
      simp only [Rehearsal.playSteps, performAll]
      exact .cons (.single faithful reaches (perform_shows reactAll step rehearsal)) (ih next)

end Ran

/-- Making a connection is no look at it. -/
theorem connect_shows (scene : Scene) (rehearsal : Rehearsal) (lifecycle : Lifecycle) :
    (connect scene rehearsal).1.Shows lifecycle := by
  intro look shown
  unfold connect at shown
  split at shown
  · cases shown
  · dsimp only at shown
    split at shown <;> cases shown

/-- The frames of a script lead to the rehearsal in which it ends. -/
theorem ran_run (scene : Scene) (steps : List Step) :
    Ran (ofScene scene) (run scene steps) (ending scene steps) := by
  have start := Faithful.ofScene scene
  have reaches := connect_reaches scene [] (ofScene scene)
  exact .cons (.single start reaches (connect_shows scene _ _))
    (.playSteps steps (start.exists_stretch reaches).1)

/-- A script ends with everything told and nothing owed. -/
theorem faithful_ending (scene : Scene) (steps : List Step) :
    Faithful scene.listener ⟨[], ending scene steps⟩ :=
  ((Faithful.ofScene scene).exists_stretch (ending_reaches scene steps)).1

/-- The frames of a script make up its log. -/
theorem log_run (scene : Scene) (steps : List Step) :
    (run scene steps).flatMap Frame.log = (ending scene steps).log :=
  (ran_run scene steps).log_eq.symm

theorem filterMap_log_run {α : Type} (view : Entry → Option α) (scene : Scene)
    (steps : List Step) :
    (run scene steps).flatMap (·.log.filterMap view) =
      (ending scene steps).log.filterMap view := by
  rw [← log_run, List.filterMap_flatMap]

/-- The notices of the frames are those of the log. -/
theorem notices_run (scene : Scene) (steps : List Step) :
    (run scene steps).flatMap Frame.notices = (ending scene steps).told :=
  filterMap_log_run Entry.notice? scene steps

/-! ## Signals that nobody reacts to -/

section Unmoved

variable {react : React} {rehearsal : Rehearsal}

theorem enter_of_unmoved (unmoved : rehearsal.reactions = []) (call : Call) :
    enter react call rehearsal = rehearsal.record (.call call rehearsal.sight) := by
  simp only [enter, record, unmoved, takeReaction]

theorem deliver_of_unmoved (unmoved : rehearsal.reactions = []) (notice : Notice) :
    deliver react notice rehearsal = rehearsal.tell notice := by
  unfold deliver tell
  rw [enter_of_unmoved unmoved]

theorem tell_eq (rehearsal : Rehearsal) (notice : Notice) :
    rehearsal.tell notice =
      { rehearsal with
        mailbox := if rehearsal.listener.posts then rehearsal.mailbox.post notice
          else rehearsal.mailbox
        log := rehearsal.log ++
          if rehearsal.listener.calls notice.kind then [.call (.notice notice) rehearsal.sight]
          else [] } := by
  unfold tell
  split
  · rename_i posts
    simp [rehearsal.listener.calls_eq_false_of_posts posts]
  · split
    · rfl
    · simp

/-- The listener is told several notices. -/
def tellAll (rehearsal : Rehearsal) (notices : List Notice) : Rehearsal :=
  notices.foldl tell rehearsal

theorem dispatch_of_unmoved (unmoved : rehearsal.reactions = []) (signal : Signal) :
    dispatch react signal (rehearsal.emit signal) =
      (rehearsal.hear signal).tellAll (rehearsal.lifecycle.accept signal).2 := by
  have told (notices : List Notice) {rehearsal : Rehearsal} (unmoved : rehearsal.reactions = []) :
      notices.foldl (fun current notice => deliver react notice current) rehearsal =
        rehearsal.tellAll notices := by
    induction notices generalizing rehearsal with
    | nil => rfl
    | cons notice notices ih =>
        rw [List.foldl_cons, deliver_of_unmoved unmoved,
          ih ((congrArg reactions (tell_eq rehearsal notice)).trans unmoved)]
        rfl
  exact told _ (show (rehearsal.hear signal).reactions = [] from unmoved)

/-- What several notices change. -/
theorem tellAll_eq (rehearsal : Rehearsal) (notices : List Notice) :
    rehearsal.tellAll notices =
      { rehearsal with
        mailbox := if rehearsal.listener.posts then notices.foldl Mailbox.post rehearsal.mailbox
          else rehearsal.mailbox
        log := rehearsal.log ++ (notices.filter (rehearsal.listener.calls ·.kind)).map
          fun notice => .call (.notice notice) rehearsal.sight } := by
  induction notices generalizing rehearsal with
  | nil => simp [tellAll]
  | cons notice notices ih =>
      rw [tellAll, List.foldl_cons, ← tellAll, ih, tell_eq]
      by_cases posts : rehearsal.listener.posts <;>
        by_cases calls : rehearsal.listener.calls notice.kind <;>
          simp [posts, calls, sight]

end Unmoved

/-! ## Signals one after another -/

/-- Nobody is going to react, and the transport has its sink. -/
structure Quiet (rehearsal : Rehearsal) : Prop where
  sink : rehearsal.sink = true
  reactions : rehearsal.reactions = []

/-- Signals are reported one after another to a listener that does not react. -/
def oneByOne (listener : Listener) (signals : List Signal) : Rehearsal :=
  (performAll reactAll (signals.map .report)
    { listener, mailbox := listener.newMailbox, sink := true }).2

namespace Quiet

variable {rehearsal : Rehearsal}

/-- A signal is reported, and nobody reacts. -/
theorem report (quiet : Quiet rehearsal) (react : React) (signal : Signal) :
    let after := (perform react (.report signal) rehearsal).2
    Quiet after ∧ after.reported = rehearsal.reported ++ [signal] := by
  simp only [perform, reportStep, quiet.sink, if_true, dispatch_of_unmoved quiet.reactions,
    tellAll_eq]
  exact ⟨⟨quiet.sink, quiet.reactions⟩, rfl⟩

theorem reported_performAll (quiet : Quiet rehearsal) (react : React) (signals : List Signal) :
    (performAll react (signals.map .report) rehearsal).2.reported =
      rehearsal.reported ++ signals := by
  induction signals generalizing rehearsal with
  | nil => simp only [List.map_nil, performAll, List.append_nil]
  | cons signal signals ih =>
      obtain ⟨next, reported⟩ := quiet.report react signal
      simp only [List.map_cons, performAll]
      rw [ih next, reported, List.append_assoc, List.singleton_append]

end Quiet

theorem told_oneByOne (listener : Listener) (signals : List Signal) :
    (oneByOne listener signals).told =
      (Notice.ofSignals signals).filter (listener.calls ·.kind) := by
  have start : Faithful listener
      ⟨[], { listener, mailbox := listener.newMailbox, sink := true }⟩ :=
    ⟨rfl, rfl, rfl, .inl rfl⟩
  have faithful := (start.exists_stretch
    (performAll_reaches reactAll_momentary (signals.map .report) [] _)).1
  have reported : (oneByOne listener signals).reported = signals :=
    Quiet.reported_performAll ⟨rfl, rfl⟩ reactAll signals
  have told := faithful.told_eq
  rw [List.filter_nil, List.append_nil] at told
  rw [show (oneByOne listener signals).told = _ from told]
  rw [show (performAll reactAll _ _).2.reported = _ from reported, Lifecycle.acceptAll_fresh]

theorem told_ending (scene : Scene) (steps : List Step) :
    (ending scene steps).told =
      (Notice.ofSignals (ending scene steps).reported).filter (scene.listener.calls ·.kind) := by
  have told := (faithful_ending scene steps).told_eq
  rw [List.filter_nil, List.append_nil] at told
  rw [show (ending scene steps).told = _ from told, Lifecycle.acceptAll_fresh]

/-- The signals that count as reported are those that the transport emitted. -/
theorem reported_ending (scene : Scene) (steps : List Step) :
    (ending scene steps).reported = Emissions.ofScript scene steps :=
  (accounts_ending scene steps).reported_eq

/-- **Notices come in the order of the signals.**  The signals are those that the transport emits,
at whatever depth, and each of them is taken in once and in its turn.  However calls nest, the
listener is told the notices of these signals, as far as it takes them; and it is told the same when
the signals are reported one after another. -/
theorem notices_of_run (scene : Scene) (steps : List Step) :
    let signals := Emissions.ofScript scene steps
    (ending scene steps).reported = signals ∧
      (run scene steps).flatMap Frame.notices =
        (Notice.ofSignals signals).filter (scene.listener.calls ·.kind) ∧
      (run scene steps).flatMap Frame.notices = (oneByOne scene.listener signals).told := by
  intro signals
  have reported : (ending scene steps).reported = signals := reported_ending scene steps
  rw [notices_run, told_oneByOne, told_ending, reported]
  exact ⟨rfl, rfl, rfl⟩

/-- A transport that emits inside the call that asks it to connect, inside the call that tells of
the opening, and inside the call that tells of the failure of a close. -/
theorem notices_of_nested_emissions :
    let scene : Scene :=
      { url := "ws://h/"
        listener := .recorder
        reactions :=
          [⟨.connect, 1, [.emit (.message "early")]⟩,
            ⟨.notice .opened, 1,
              [.emit (.message "hello"), .dropHandle, .report (.closed .goingAway "bye" true)]⟩,
            ⟨.notice .failed, 1, [.emit (.message "late"), .report (.failed .connectionClosed)]⟩] }
    let steps : List Step := [.report .opened, .emit .opened]
    let signals : List Signal := [.message "early", .opened, .message "hello",
      .closed .goingAway "bye" true, .message "late", .failed .connectionClosed, .opened]
    Emissions.ofScript scene steps = signals ∧
      (run scene steps).flatMap Frame.notices =
        [.opened, .message "hello", .failed (.abnormalClose .goingAway "bye"),
          .closed ⟨.goingAway, "bye", true, false⟩] := by
  intro scene steps signals
  have emitted : Emissions.ofScript scene steps = signals := by decide +kernel
  obtain ⟨-, told, -⟩ := notices_of_run scene steps
  rw [emitted] at told
  exact ⟨emitted, told⟩

/-! ## What can be seen -/

/-- **What can be seen of a connection.**  No look shows a closing connection, a look shows a
record exactly if it shows a closed connection, and states never go down from one look to the next.
A call of the listener shows what its notice announces: an open connection for an opening and a
message, and a closed one for a failure and a close.  The same is true of every moment between two
things that happen, whether or not anyone looks. -/
theorem looks_of_run (scene : Scene) (steps : List Step) :
    let looks := (run scene steps).flatMap Frame.looks
    (∀ look ∈ looks, look.Sound) ∧
      (looks.Pairwise fun earlier later => earlier.state.number ≤ later.state.number) ∧
      (∀ frame ∈ run scene steps, ∀ notice sight, .call (.notice notice) sight ∈ frame.log →
        notice.Announces ⟨sight.state, sight.record⟩) ∧
      ∀ moment, Reaches ⟨[], ofScene scene⟩ moment → moment.now.lifecycle.Settled ∧
        ∀ later, Reaches moment later →
          moment.now.lifecycle.state.number ≤ later.now.lifecycle.state.number := by
  intro looks
  have ran := ran_run scene steps
  refine ⟨ran.passage.sound, ran.passage.climbs.pairwise, ?_, ?_⟩
  · intro frame member notice sight called
    exact ran.truthful frame member _ called notice sight rfl
  · intro moment reached
    have faithful := ((Faithful.ofScene scene).exists_stretch reached).1
    refine ⟨faithful.settled, ?_⟩
    intro later reaches
    obtain ⟨-, entries, stretch⟩ := faithful.exists_stretch reaches
    exact stretch.passage.climbs.le

/-! ## The end -/

theorem record_ending (scene : Scene) (steps : List Step) :
    (ending scene steps).lifecycle.record =
      (Farewell.ofSignals (ending scene steps).reported).map Farewell.record := by
  rw [(faithful_ending scene steps).lifecycle_eq, Lifecycle.acceptAll_fresh]
  cases Farewell.ofSignals (ending scene steps).reported <;> rfl

/-- Whoever is told of the end sees the record that is kept. -/
theorem Ran.record_of_farewell {before after : Rehearsal} {frames : List Frame}
    (ran : Ran before frames after) {frame : Frame} (member : frame ∈ frames) {notice : Notice}
    {sight : Sight} (called : .call (.notice notice) sight ∈ frame.log)
    (ends : notice.isFarewell) : sight.record.isSome ∧ sight.record = after.lifecycle.record := by
  have shown : Look.whole sight.state sight.record ∈ frames.flatMap Frame.looks := by
    refine List.mem_flatMap.mpr ⟨frame, member, ?_⟩
    refine List.mem_append_left _ (List.mem_append_left _ ?_)
    exact List.mem_filterMap.mpr ⟨_, called, rfl⟩
  have closed : sight.state = .closed :=
    (ran.truthful frame member _ called notice sight rfl).state_of_isFarewell ends
  have some_record := ((ran.passage.sound _ shown).2 _ rfl).mp closed
  obtain ⟨record, same⟩ := Option.isSome_iff_exists.mp some_record
  refine ⟨some_record, ?_⟩
  rw [same]
  exact (ran.passage.agrees _ shown record (congrArg some same)).symm

/-- **The end of a connection.**  The first terminal signal that is emitted decides it, at whatever
depth it and the others are emitted.  Its record is kept; it is announced by a failure exactly if it
is not clean; of the end the listener is told the farewell and nothing else; whoever is told of it,
of the failure as of the close, sees that record; and no look at any time shows another one. -/
theorem farewell_of_run (scene : Scene) (steps : List Step) :
    match Farewell.ofSignals (Emissions.ofScript scene steps) with
    | none => (ending scene steps).lifecycle.record = none
    | some farewell =>
      (ending scene steps).lifecycle.record = some farewell.record ∧
      (farewell.failure.isSome ↔ farewell.record.clean = false) ∧
      ((run scene steps).flatMap Frame.notices).filter Notice.isFarewell =
        farewell.notices.filter (scene.listener.calls ·.kind) ∧
      (∀ frame ∈ run scene steps, ∀ notice sight, .call (.notice notice) sight ∈ frame.log →
        notice.isFarewell → sight.record = some farewell.record) ∧
      ∀ frame ∈ run scene steps, ∀ look ∈ frame.looks, ∀ record,
        look.record? = some (some record) → record = farewell.record := by
  rw [← reported_ending]
  have ran := ran_run scene steps
  have kept := record_ending scene steps
  have told : ((run scene steps).flatMap Frame.notices).filter Notice.isFarewell =
      (((Farewell.ofSignals (ending scene steps).reported).map Farewell.notices).getD []).filter
        (scene.listener.calls ·.kind) := by
    rw [notices_run, told_ending, List.filter_filter, ← Notice.filter_ofSignals,
      List.filter_filter]
    simp only [Bool.and_comm]
  cases ends : Farewell.ofSignals (ending scene steps).reported with
  | none =>
      rw [ends] at kept
      exact kept
  | some farewell =>
      rw [ends] at kept told
      refine ⟨kept, ?_, told, ?_, ?_⟩
      · obtain ⟨signal, -, announced⟩ := Option.bind_eq_some_iff.mp ends
        exact Farewell.isSome_failure_iff announced
      · intro frame member notice sight called last
        rw [(ran.record_of_farewell member called last).2, kept]
        rfl
      · intro frame member look seen record shown
        have agrees := ran.passage.agrees look (List.mem_flatMap.mpr ⟨frame, member, seen⟩)
          record shown
        rw [kept] at agrees
        exact (Option.some.inj agrees).symm

/-- A transport that fails before the opening, that emits an opening and a clean close inside the
call that tells of the failure, and that fails again inside the call that tells of the close. -/
theorem farewell_of_nested_emissions :
    let scene : Scene :=
      { url := "ws://h/"
        listener := .recorder
        reactions :=
          [⟨.notice .failed, 1, [.emit .opened, .emit (.closed .normal "bye" true), .dropHandle]⟩,
            ⟨.notice .closed, 1, [.report (.failed .noRuntime)]⟩] }
    let steps : List Step := [.report (.failed (.transport "refused")), .emit (.message "late")]
    let signals : List Signal := [.failed (.transport "refused"), .opened,
      .closed .normal "bye" true, .failed .noRuntime, .message "late"]
    let record : CloseRecord := ⟨.neverConnected, "Transport error: refused", false, false⟩
    Emissions.ofScript scene steps = signals ∧
      (ending scene steps).lifecycle.record = some record ∧
      ((run scene steps).flatMap Frame.notices).filter Notice.isFarewell =
        [.failed (.transport "refused"), .closed record] ∧
      ∀ frame ∈ run scene steps, ∀ notice sight, .call (.notice notice) sight ∈ frame.log →
        notice.isFarewell → sight.record = some record := by
  intro scene steps signals record
  have emitted : Emissions.ofScript scene steps = signals := by decide +kernel
  have ends := farewell_of_run scene steps
  rw [emitted] at ends
  obtain ⟨kept, -, told, seen, -⟩ := ends
  exact ⟨emitted, kept, told, seen⟩

end WebSocketClient.Rehearsal
