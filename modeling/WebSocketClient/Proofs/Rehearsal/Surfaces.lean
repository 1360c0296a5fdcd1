import WebSocketClient.Proofs.Reading
import WebSocketClient.Proofs.Rehearsal.Runs

/-!
# The surfaces of a host

A host may be told of a connection in several ways.  It may record every notice, set callbacks for
some kinds of notice, or read the notices from a mailbox, and a listener of any of these sorts may
be shared or boxed.  When the same signals are reported, all of these agree (`surfaces_of_run`).

Two facts carry this.  As long as nobody reacts to a call, the signals of a script are reported
whoever listens, so that the lifecycle and the notices are the same (`attended_heard`).  And the
close is the last notice of a connection (`Notice.pairwise_ofSignals`), so that a mailbox, which
gives up its writing end with the close, never drops a notice that the other surfaces show
(`holds_heard`).
-/

namespace WebSocketClient

set_option autoImplicit false

open Moment (Faithful)

/-! ## Listeners behind pointers -/

namespace Listener

/-- The listener behind its owners and pointers. -/
def core : Listener → Listener
  | shared listener => listener.core
  | boxed listener => listener.core
  | listener => listener

theorem calls_core (listener : Listener) : listener.core.calls = listener.calls := by
  induction listener with
  | shared listener ih => exact ih
  | boxed listener ih => exact ih
  | recorder => rfl
  | callbacks set => rfl
  | silent => rfl
  | mailbox => rfl

theorem posts_core (listener : Listener) : listener.core.posts = listener.posts := by
  induction listener with
  | shared listener ih => exact ih
  | boxed listener ih => exact ih
  | recorder => rfl
  | callbacks set => rfl
  | silent => rfl
  | mailbox => rfl

end Listener

/-! ## The close comes last -/

namespace Notice

theorem isClosing_iff {notice : Notice} :
    notice.isClosing = true ↔ ∃ record, notice = .closed record := by
  cases notice <;> simp [isClosing, kind]

theorem isClosing_of_mem_conversation {signals : List Signal} {notice : Notice}
    (member : notice ∈ Signal.conversation signals) : notice.isClosing = false := by
  unfold Signal.conversation at member
  split at member
  · cases member
  · rcases List.mem_cons.mp member with rfl | member
    · rfl
    · obtain ⟨signal, -, passed⟩ := List.mem_filterMap.mp member
      cases signal <;> cases passed
      rfl

/-- Nothing is told after a close. -/
theorem pairwise_ofSignals (signals : List Signal) :
    (ofSignals signals).Pairwise fun earlier _ => earlier.isClosing = false := by
  have farewell (farewell : Farewell) :
      farewell.notices.Pairwise fun earlier _ => earlier.isClosing = false := by
    obtain ⟨failure, record⟩ := farewell
    cases failure with
    | none => exact List.pairwise_singleton _ _
    | some failure => exact .cons (fun _ _ => rfl) (List.pairwise_singleton _ _)
  rw [ofSignals, List.pairwise_append]
  refine ⟨.imp_of_mem (fun member _ _ => isClosing_of_mem_conversation member)
    (List.pairwise_of_forall fun _ _ => trivial), ?_,
    fun notice member _ _ => isClosing_of_mem_conversation member⟩
  cases Farewell.ofSignals signals with
  | none => exact .nil
  | some ended => exact farewell ended

/-- A close is told exactly if there is a terminal signal. -/
theorem any_isClosing_ofSignals (signals : List Signal) :
    (ofSignals signals).any isClosing = signals.any Signal.isTerminal := by
  have conversation : (Signal.conversation (Signal.beforeEnd signals)).any isClosing = false := by
    rw [List.any_eq_false]
    intro notice member
    rw [isClosing_of_mem_conversation member]
    exact Bool.false_ne_true
  rw [ofSignals, List.any_append, conversation, Bool.false_or]
  cases found : signals.find? Signal.isTerminal with
  | none =>
      have ended : Farewell.ofSignals signals = none := by rw [Farewell.ofSignals, found]; rfl
      have running : signals.any Signal.isTerminal = false := by
        rw [List.any_eq_false]
        exact List.find?_eq_none.mp found
      rw [ended, running]
      rfl
  | some signal =>
      have terminal := List.find?_some found
      have finished : signals.any Signal.isTerminal = true :=
        List.any_eq_true.mpr ⟨signal, List.mem_of_find?_eq_some found, terminal⟩
      have announced := Lifecycle.ofSignal_isSome
        ((Signal.beforeEnd signals).any Signal.isOpening) signal
      rw [terminal, Option.isSome_iff_exists] at announced
      obtain ⟨farewell, announced⟩ := announced
      have ended : Farewell.ofSignals signals = some farewell := by
        rw [Farewell.ofSignals, found]
        exact announced
      rw [ended, finished]
      obtain ⟨failure, record⟩ := farewell
      cases failure <;> rfl

end Notice

namespace Mailbox.Holds

variable {posted read : List Notice} {mailbox : Mailbox}

/-- Notices are added one after another, as long as the close comes last. -/
theorem postAll (holds : Holds posted read (posted.any Notice.isClosing) mailbox)
    {notices : List Notice}
    (last : (posted ++ notices).Pairwise fun earlier _ => earlier.isClosing = false) :
    Holds (posted ++ notices) read ((posted ++ notices).any Notice.isClosing)
      (notices.foldl Mailbox.post mailbox) := by
  induction notices generalizing posted mailbox with
  | nil => simpa using holds
  | cons notice notices ih =>
      have fresh : posted.any Notice.isClosing = false := by
        rw [List.any_eq_false]
        intro earlier member
        rw [(List.pairwise_append.mp last).2.2 earlier member notice List.mem_cons_self]
        exact Bool.false_ne_true
      have next : Holds (posted ++ [notice]) read ((posted ++ [notice]).any Notice.isClosing)
          (mailbox.post notice) := by
        simpa [fresh] using holds.post notice
      rw [← List.singleton_append, ← List.append_assoc] at last ⊢
      exact ih next last

end Mailbox.Holds

/-! ## Cues -/

/-- What can happen to a connection whose host only listens.  The transport reports a signal,
through its sink or a copy of it; the host looks into its mailbox, takes a notice from it, or gives
up its handle. -/
inductive Cue where
  | report (signal : Signal) (copy : Bool)
  | look (stream : Bool)
  | take
  | dropHandle

namespace Cue

/-- A cue as a step of a script. -/
def step : Cue → Step
  | report signal false => .report signal
  | report signal true => .emit signal
  | look stream => .poll stream
  | take => .take
  | dropHandle => .dropHandle

/-- The signal that is reported. -/
def signal? : Cue → Option Signal
  | report signal _ => some signal
  | look _ | take | dropHandle => none

/-- The signals that are reported. -/
def signals (cues : List Cue) : List Signal :=
  cues.filterMap signal?

theorem signals_concat (cues : List Cue) (last : Cue) :
    signals (cues ++ [last]) = signals cues ++ last.signal?.toList := by
  cases last <;> simp [signals, signal?]

end Cue

/-- The notice that an outcome gives to the host. -/
def Outcome.read? : Outcome → Option Notice
  | polled poll => poll.read?
  | taken notice => notice
  | _ => none

namespace Rehearsal

/-! ## Cues that nobody reacts to -/

/-- What a signal makes of a connection, if nobody reacts. -/
theorem perform_report {react : React} {rehearsal : Rehearsal}
    (unmoved : rehearsal.reactions = []) (signal : Signal) (copy : Bool) :
    perform react (Cue.report signal copy).step rehearsal =
      if rehearsal.sink then
        (.done, (rehearsal.hear signal).tellAll (rehearsal.lifecycle.accept signal).2)
      else (.noConnection, rehearsal) := by
  cases copy <;> simp only [Cue.step, perform, reportStep, dispatch_of_unmoved unmoved]

/-! ## Hosts that only listen -/

/-- The scene of a host that only listens. -/
def Scene.quiet (scene : Scene) (listener : Listener) : Scene :=
  { scene with listener, reactions := [] }

/-- What becomes of the connection. -/
def heard (scene : Scene) (listener : Listener) (cues : List Cue) : Rehearsal :=
  ending (scene.quiet listener) (cues.map Cue.step)

/-- What is shown of it. -/
def shown (scene : Scene) (listener : Listener) (cues : List Cue) : List Frame :=
  run (scene.quiet listener) (cues.map Cue.step)

/-- The notices that the host received from its mailbox. -/
def received (scene : Scene) (cues : List Cue) : List Notice :=
  (shown scene .mailbox cues).filterMap (·.outcome.read?)

theorem performAll_append (react : React) (first second : List Step) (rehearsal : Rehearsal) :
    (performAll react (first ++ second) rehearsal).2 =
      (performAll react second (performAll react first rehearsal).2).2 := by
  induction first generalizing rehearsal with
  | nil => simp only [List.nil_append, performAll]
  | cons step first ih => simp only [List.cons_append, performAll, ih]

theorem playSteps_append (first second : List Step) (rehearsal : Rehearsal) :
    playSteps (first ++ second) rehearsal =
      playSteps first rehearsal ++ playSteps second (performAll reactAll first rehearsal).2 := by
  induction first generalizing rehearsal with
  | nil => simp only [List.nil_append, playSteps, performAll]
  | cons step first ih => simp only [List.cons_append, playSteps, performAll, ih]

section Concat

variable (scene : Scene) (listener : Listener) (cues : List Cue) (last : Cue)

theorem heard_concat :
    heard scene listener (cues ++ [last]) =
      (perform reactAll last.step (heard scene listener cues)).2 := by
  simp only [heard, ending, List.map_append, performAll_append, List.map_cons, List.map_nil,
    performAll]

theorem shown_concat :
    shown scene listener (cues ++ [last]) =
      shown scene listener cues ++
        [frame (heard scene listener cues)
          (perform reactAll last.step (heard scene listener cues)).1
          (heard scene listener (cues ++ [last]))] := by
  rw [heard_concat]
  simp only [shown, run, List.map_append, playSteps_append, List.cons_append, List.map_cons,
    List.map_nil, playSteps]
  rfl

end Concat

/-- The connection could be made. -/
def Scene.connects (scene : Scene) : Bool :=
  (Endpoint.parse scene.url).isOk

/-- A connection whose host only listens: nobody reacts, the transport has its sink if the
connection could be made, and then the signals are those of the cues. -/
structure Attended (scene : Scene) (listener : Listener) (cues : List Cue)
    (rehearsal : Rehearsal) : Prop where
  unmoved : rehearsal.reactions = []
  listener_eq : rehearsal.listener = listener
  sink_eq : rehearsal.sink = scene.connects
  reported_eq : rehearsal.reported =
    if scene.connects then Cue.signals cues else []

/-- What is there before the first cue. -/
theorem heard_nil (scene : Scene) (listener : Listener) :
    Attended scene listener [] (heard scene listener []) ∧
      (heard scene listener []).mailbox =
        if scene.connects then listener.newMailbox else listener.newMailbox.dropWriter := by
  have made : heard scene listener [] =
      (connect (scene.quiet listener) (ofScene (scene.quiet listener))).2 := by
    simp only [heard, ending, List.map_nil, performAll]
  rw [made]
  unfold connect
  cases parsed : Endpoint.parse scene.url with
  | error failure =>
      have fails : scene.connects = false := by rw [Scene.connects, parsed]; rfl
      simp only [Scene.quiet, parsed, fails]
      exact ⟨⟨rfl, rfl, fails.symm, by rw [fails]; rfl⟩, rfl⟩
  | ok endpoint =>
      have connects : scene.connects = true := by rw [Scene.connects, parsed]; rfl
      simp only [Scene.quiet, parsed, connects]
      rw [enter_of_unmoved rfl]
      cases scene.refusal <;> exact ⟨⟨rfl, rfl, connects.symm, by rw [connects]; rfl⟩, rfl⟩

theorem attended_heard (scene : Scene) (listener : Listener) (cues : List Cue) :
    Attended scene listener cues (heard scene listener cues) := by
  induction cues using List.reverseRecOn with
  | nil => exact (heard_nil scene listener).1
  | append_singleton cues last ih =>
      rw [heard_concat]
      generalize heard scene listener cues = rehearsal at ih
      obtain ⟨unmoved, listener_eq, sink_eq, reported_eq⟩ := ih
      have kept (none : last.signal? = none) : rehearsal.reported =
          if scene.connects then Cue.signals (cues ++ [last]) else [] := by
        rw [reported_eq, Cue.signals_concat, none, Option.toList_none, List.append_nil]
      cases last with
      | report signal copy =>
          rw [perform_report unmoved, sink_eq]
          cases made : scene.connects
          · rw [made] at sink_eq reported_eq
            exact ⟨unmoved, listener_eq, by rw [made]; exact sink_eq,
              by rw [made]; exact reported_eq⟩
          · rw [made] at sink_eq reported_eq
            simp only [if_true, tellAll_eq]
            exact ⟨unmoved, listener_eq, by rw [made]; exact sink_eq,
              by simp [hear, reported_eq, made, Cue.signals_concat, Cue.signal?]⟩
      | look stream =>
          simp only [Cue.step, perform]
          split <;> exact ⟨unmoved, listener_eq, sink_eq, kept rfl⟩
      | take =>
          simp only [Cue.step, perform]
          split <;> exact ⟨unmoved, listener_eq, sink_eq, kept rfl⟩
      | dropHandle =>
          simp only [Cue.step, perform]
          exact ⟨unmoved, listener_eq, sink_eq, kept rfl⟩

/-- The signals are the same whoever listens. -/
theorem reported_heard (scene : Scene) (one other : Listener) (cues : List Cue) :
    (heard scene one cues).reported = (heard scene other cues).reported := by
  rw [(attended_heard scene one cues).reported_eq, (attended_heard scene other cues).reported_eq]

theorem lifecycle_heard (scene : Scene) (one other : Listener) (cues : List Cue) :
    (heard scene one cues).lifecycle = (heard scene other cues).lifecycle := by
  have kept (listener : Listener) : (heard scene listener cues).lifecycle =
      (({} : Lifecycle).acceptAll (heard scene listener cues).reported).1 :=
    (faithful_ending (scene.quiet listener) (cues.map Cue.step)).lifecycle_eq
  rw [kept one, kept other, reported_heard scene one other]

/-- What the code of a listener is told. -/
theorem notices_shown (scene : Scene) (listener : Listener) (cues : List Cue) :
    (shown scene listener cues).flatMap Frame.notices =
      (Notice.ofSignals (heard scene listener cues).reported).filter (listener.calls ·.kind) := by
  rw [shown, notices_run, told_ending]
  rfl

theorem notices_shown_recorder (scene : Scene) (cues : List Cue) :
    (shown scene .recorder cues).flatMap Frame.notices =
      Notice.ofSignals (heard scene .recorder cues).reported := by
  rw [notices_shown]
  exact List.filter_eq_self.mpr fun _ _ => rfl

/-! ## The mailbox -/

/-- One more signal adds its notices. -/
theorem ofSignals_hear {listener : Listener} {rehearsal : Rehearsal}
    (faithful : Faithful listener ⟨[], rehearsal⟩) (signal : Signal) :
    Notice.ofSignals (rehearsal.hear signal).reported =
      Notice.ofSignals rehearsal.reported ++ (rehearsal.lifecycle.accept signal).2 := by
  have signals := congrArg Prod.snd (faithful.acceptAll_hear signal)
  simpa only [Lifecycle.acceptAll_fresh] using signals

theorem received_nil (scene : Scene) : received scene [] = [] := by
  have outcome : (connect (scene.quiet .mailbox) (ofScene (scene.quiet .mailbox))).1.read? =
      none := by
    unfold connect
    split
    · rfl
    · dsimp only
      split <;> rfl
  simp [received, shown, run, playSteps, frame, outcome]

theorem received_concat (scene : Scene) (cues : List Cue) (last : Cue) :
    received scene (cues ++ [last]) = received scene cues ++
      (perform reactAll last.step (heard scene .mailbox cues)).1.read?.toList := by
  rw [received, shown_concat, List.filterMap_append]
  cases found : (perform reactAll last.step (heard scene .mailbox cues)).1.read? <;>
    simp [received, frame, found]

/-- The mailbox holds the notices of the signals that the host has not received. -/
theorem holds_heard (scene : Scene) (cues : List Cue) :
    (heard scene .mailbox cues).mailbox.Holds
      (Notice.ofSignals (heard scene .mailbox cues).reported) (received scene cues)
      (!scene.connects || (heard scene .mailbox cues).reported.any Signal.isTerminal) := by
  induction cues using List.reverseRecOn with
  | nil =>
      obtain ⟨⟨-, -, -, reported⟩, mailbox⟩ := heard_nil scene .mailbox
      have none : (heard scene .mailbox []).reported = [] := by
        rw [reported]
        split <;> rfl
      rw [none, received_nil, mailbox]
      cases scene.connects <;> exact ⟨rfl, rfl, rfl⟩
  | append_singleton cues last ih =>
      have faithful : Faithful .mailbox ⟨[], heard scene .mailbox cues⟩ :=
        faithful_ending (scene.quiet .mailbox) (cues.map Cue.step)
      obtain ⟨unmoved, listener_eq, sink_eq, -⟩ := attended_heard scene .mailbox cues
      rw [heard_concat, received_concat]
      generalize heard scene .mailbox cues = rehearsal at *
      have reader := ih.reader
      cases last with
      | report signal copy =>
          rw [perform_report unmoved, sink_eq]
          cases made : scene.connects with
          | false =>
              rw [made] at ih
              simpa [Outcome.read?] using ih
          | true =>
              have posts : rehearsal.listener.posts = true := by rw [listener_eq]; rfl
              have posted := ofSignals_hear faithful signal
              have close_last := Notice.pairwise_ofSignals (rehearsal.hear signal).reported
              rw [made, Bool.not_true, Bool.false_or, ← Notice.any_isClosing_ofSignals] at ih
              rw [posted] at close_last
              have added := ih.postAll close_last
              simp only [if_true, tellAll_eq, Bool.not_true, Bool.false_or,
                ← Notice.any_isClosing_ofSignals, posted]
              simpa [hear, posts, Outcome.read?] using added
      | look stream =>
          simp only [Cue.step, perform, reader, ih.poll, if_true]
          simpa [Outcome.read?, Poll.read?_ofNext, ← ih.take?.1] using ih.take?.2
      | take =>
          simp only [Cue.step, perform, reader, if_true]
          simpa [Outcome.read?] using ih.take?.2
      | dropHandle =>
          simp only [Cue.step, perform]
          simpa [Outcome.read?] using ih

/-! ## Pointers -/

/-- A cue means the same to two listeners that run code and post alike. -/
theorem perform_of_alike {rehearsal : Rehearsal} (unmoved : rehearsal.reactions = [])
    {listener : Listener} (calls : listener.calls = rehearsal.listener.calls)
    (posts : listener.posts = rehearsal.listener.posts) (cue : Cue) :
    perform reactAll cue.step { rehearsal with listener } =
      ((perform reactAll cue.step rehearsal).1,
        { (perform reactAll cue.step rehearsal).2 with listener }) := by
  cases cue with
  | report signal copy =>
      have same : Rehearsal.reactions { rehearsal with listener } = [] := unmoved
      have alike := @perform_report reactAll _ same signal copy
      rw [perform_report unmoved, alike]
      by_cases sink : rehearsal.sink
      · simp [sink, tellAll_eq, hear, calls, posts, sight]
      · simp [sink]
  | look stream =>
      simp only [Cue.step, perform]
      split <;> rfl
  | take =>
      simp only [Cue.step, perform]
      split <;> rfl
  | dropHandle => simp only [Cue.step, perform]

/-- A connection is made in the same way for a listener and for the one behind its pointers. -/
theorem connect_core (scene : Scene) (listener : Listener) :
    connect (scene.quiet listener) (ofScene (scene.quiet listener)) =
      ((connect (scene.quiet listener.core) (ofScene (scene.quiet listener.core))).1,
        { (connect (scene.quiet listener.core) (ofScene (scene.quiet listener.core))).2 with
          listener }) := by
  have mailbox : listener.core.newMailbox = listener.newMailbox := by
    rw [Listener.newMailbox, Listener.posts_core]
    rfl
  unfold connect
  cases parsed : Endpoint.parse scene.url with
  | error failure => simp only [Scene.quiet, parsed, ofScene, mailbox]
  | ok endpoint =>
      simp only [Scene.quiet, parsed]
      rw [enter_of_unmoved rfl, enter_of_unmoved rfl]
      cases scene.refusal <;> simp only [ofScene, mailbox, record, sight]

/-- Nothing depends on the pointers in front of a listener. -/
theorem heard_core (scene : Scene) (listener : Listener) (cues : List Cue) :
    heard scene listener cues = { heard scene listener.core cues with listener } ∧
      shown scene listener cues = shown scene listener.core cues := by
  induction cues using List.reverseRecOn with
  | nil =>
      have made := connect_core scene listener
      simp only [heard, ending, shown, run, List.map_nil, performAll, playSteps, made]
      exact ⟨trivial, rfl⟩
  | append_singleton cues last ih =>
      obtain ⟨same, alike⟩ := ih
      obtain ⟨unmoved, listener_eq, -, -⟩ := attended_heard scene listener.core cues
      have calls : listener.calls = (heard scene listener.core cues).listener.calls := by
        rw [listener_eq, Listener.calls_core]
      have posts : listener.posts = (heard scene listener.core cues).listener.posts := by
        rw [listener_eq, Listener.posts_core]
      have performed := perform_of_alike unmoved calls posts last
      rw [shown_concat, shown_concat, heard_concat, heard_concat, same, alike, performed]
      exact ⟨rfl, rfl⟩

/-- The states after each step are the same whoever listens. -/
theorem states_shown (scene : Scene) (one other : Listener) (cues : List Cue) :
    (shown scene one cues).map Frame.state = (shown scene other cues).map Frame.state := by
  have state (cues : List Cue) : (heard scene one cues).sink = (heard scene other cues).sink ∧
      (heard scene one cues).lifecycle = (heard scene other cues).lifecycle :=
    ⟨by rw [(attended_heard scene one cues).sink_eq, (attended_heard scene other cues).sink_eq],
      lifecycle_heard scene one other cues⟩
  induction cues using List.reverseRecOn with
  | nil =>
      have made (listener : Listener) : (shown scene listener []).map Frame.state =
          [if (heard scene listener []).sink then some (heard scene listener []).lifecycle.state
            else none] := by
        simp only [heard, ending, shown, run, List.map_nil, performAll, playSteps, frame,
          List.map_cons]
      rw [made one, made other, (state []).1, (state []).2]
  | append_singleton cues last ih =>
      rw [shown_concat, shown_concat, List.map_append, List.map_append, ih]
      simp only [frame, List.map_cons, List.map_nil, (state (cues ++ [last])).1,
        (state (cues ++ [last])).2]

/-! ## All surfaces -/

/-- The signals that are delivered: none, if the connection could not be made. -/
def delivered (scene : Scene) (cues : List Cue) : List Signal :=
  if scene.connects then Cue.signals cues else []

/-- The outcome of the last step. -/
def lastOutcome (frames : List Frame) : Option Outcome :=
  frames.getLast?.map Frame.outcome

/-- The reader finds the end exactly if the connection could not be made, or a terminal signal was
delivered and its close was received. -/
theorem ended_iff (scene : Scene) (cues : List Cue) :
    Poll.ofNext (Notice.ofSignals (delivered scene cues))[(received scene cues).length]?
        (!scene.connects || (delivered scene cues).any Signal.isTerminal) = .ended ↔
      scene.connects = false ∨ (delivered scene cues).any Signal.isTerminal ∧
        ∃ record, .closed record ∈ received scene cues := by
  have holds := holds_heard scene cues
  rw [(attended_heard scene .mailbox cues).reported_eq] at holds
  change Mailbox.Holds (Notice.ofSignals (delivered scene cues)) _ _ _ at holds
  have signals := Notice.any_isClosing_ofSignals (delivered scene cues)
  have last := Notice.pairwise_ofSignals (delivered scene cues)
  rw [Poll.ofNext_eq_ended_iff, List.getElem?_eq_none_iff, Bool.or_eq_true, Bool.not_eq_true']
  constructor
  · rintro ⟨all, fails | terminal⟩
    · exact .inl fails
    · have whole := holds.read_initial.eq_of_length_le all
      rw [← signals, ← whole] at terminal
      obtain ⟨notice, member, closing⟩ := List.any_eq_true.mp terminal
      obtain ⟨record, rfl⟩ := Notice.isClosing_iff.mp closing
      rw [← signals, ← whole]
      exact .inr ⟨terminal, record, member⟩
  · rintro (fails | ⟨terminal, record, member⟩)
    · have none : delivered scene cues = [] := by rw [delivered, fails]; rfl
      rw [none]
      exact ⟨Nat.zero_le _, .inl fails⟩
    · refine ⟨?_, .inr terminal⟩
      rw [← holds.posted_eq] at last ⊢
      have done : (heard scene .mailbox cues).mailbox.waiting = [] := by
        rw [List.eq_nil_iff_forall_not_mem]
        intro later waits
        exact Bool.false_ne_true ((List.pairwise_append.mp last).2.2 _ member later waits).symm
      exact Nat.le_of_eq (by rw [done, List.append_nil])

/-- **All surfaces of a host agree.**  Callbacks are called for the recorded notices of their kinds;
owners and pointers change nothing that is shown; the lifecycle and the states after each step are
the same whoever listens; and what is received from a mailbox is what is recorded: a prefix of it at
any time, with the next notice found whenever there is one, and the end found exactly if the close
was received. -/
theorem surfaces_of_run (scene : Scene) (cues : List Cue) :
    let recorded := (shown scene .recorder cues).flatMap Frame.notices
    let next := recorded[(received scene cues).length]?
    let finished := !scene.connects || (delivered scene cues).any Signal.isTerminal
    (∀ set : Callbacks, (shown scene (.callbacks set) cues).flatMap Frame.notices =
        recorded.filter (set.has ·.kind)) ∧
      (∀ listener, shown scene listener cues = shown scene listener.core cues) ∧
      (∀ listener, (heard scene listener cues).lifecycle = (heard scene .recorder cues).lifecycle ∧
        (shown scene listener cues).map Frame.state =
          (shown scene .recorder cues).map Frame.state) ∧
      received scene cues <+: recorded ∧
      (∀ stream, lastOutcome (shown scene .mailbox (cues ++ [.look stream])) =
        some (.polled (.ofNext next finished))) ∧
      lastOutcome (shown scene .mailbox (cues ++ [.take])) = some (.taken next) ∧
      (Poll.ofNext next finished = .ended ↔ scene.connects = false ∨
        (delivered scene cues).any Signal.isTerminal ∧
          ∃ record, .closed record ∈ received scene cues) := by
  intro recorded next finished
  have holds := holds_heard scene cues
  have signals (listener : Listener) :
      (heard scene listener cues).reported = delivered scene cues :=
    (attended_heard scene listener cues).reported_eq
  have all : recorded = Notice.ofSignals (delivered scene cues) := by
    rw [← signals .recorder]
    exact notices_shown_recorder scene cues
  rw [signals] at holds
  refine ⟨?_, fun listener => (heard_core scene listener cues).2,
    fun listener => ⟨lifecycle_heard scene listener .recorder cues,
      states_shown scene listener .recorder cues⟩, ?_, ?_, ?_, ?_⟩
  · intro set
    rw [notices_shown, signals, all]
    rfl
  · rw [all]
    exact holds.read_initial
  · intro stream
    simp only [lastOutcome, shown_concat, frame, Cue.step, perform, holds.reader, holds.poll,
      if_true, List.getLast?_concat, Option.map_some, next, all, finished]
  · simp only [lastOutcome, shown_concat, frame, Cue.step, perform, holds.reader, if_true,
      holds.take?.1, List.getLast?_concat, Option.map_some, next, all]
  · rw [show next = _ from congrArg (·[(received scene cues).length]?) all]
    exact ended_iff scene cues

end Rehearsal

end WebSocketClient
