import WebSocketClient.Proofs.Link.Turn
import WebSocketClient.Proofs.Request

/-!
# The course of a conversation

A conversation ends in one of many ways, but its signals are always of one of three shapes.  It may
be given up before it connected, it may fail before it connected, or it opens, brings messages, and
ends with one terminal signal (`Story`).  The proof follows the stages: `Course` says for each stage
which signals lead there, and every turn that a proper command or anything else causes continues the
course (`Course.take`).

What is left is what the codes mean.  The code of a close after an opening comes from the peer, from
a close that the host asked for, or stands for a broken connection, and none of these is the code of
an attempt that never connected.  For the host this code therefore says, and only this code says,
that it was never told of an opening (`story_of_run`).
-/

namespace WebSocketClient

set_option autoImplicit false

/-! ## Signals that count -/

/-- The host is told something for every signal. -/
def Lifecycle.Heeds : Lifecycle → List Signal → Prop
  | _, [] => True
  | lifecycle, signal :: signals =>
    (lifecycle.accept signal).2 ≠ [] ∧ (lifecycle.accept signal).1.Heeds signals

/-- A terminal signal behind an opening that is not about an attempt that never connected. -/
inductive Signal.Parts : Signal → Prop where
  | closed {code : CloseCode} (connected : code.number ≠ -1) (reason : String) (remote : Bool) :
      Parts (.closed code reason remote)
  | failed (failure : Failure) : Parts (.failed failure)

namespace Signal.Parts

theorem ofClose (body : Option Wire.CloseBody) {ours : Option CloseCode}
    (proper : ∀ code, ours = some code → code.isValid) : Parts (.ofClose body ours) := by
  cases body with
  | some body => exact .closed (CloseCode.number_ofStatus_ne body.status) _ _
  | none =>
      cases ours with
      | none => exact .closed (by decide) _ _
      | some code => exact .closed (CloseCode.number_ne_of_isValid (proper code rfl)) _ _

theorem ofEnd {ours : Option CloseCode} (proper : ∀ code, ours = some code → code.isValid) :
    Parts (.ofEnd ours) := by
  cases ours with
  | none => exact .closed (by decide) _ _
  | some code => exact .closed (CloseCode.number_ne_of_isValid (proper code rfl)) _ _

/-- The end of a connection that had opened: its farewell, whose code is one of a connection. -/
theorem exists_farewell {signal : Signal} (parts : signal.Parts) :
    ∃ farewell, Farewell.ofSignal true signal = some farewell ∧
      farewell.record.code.number ≠ -1 := by
  cases parts with
  | closed connected reason remote =>
      simp only [Farewell.ofSignal]
      split
      · exact ⟨_, rfl, connected⟩
      · exact ⟨_, rfl, connected⟩
  | failed failure => exact ⟨_, rfl, show CloseCode.abnormal.number ≠ -1 by decide⟩

end Signal.Parts

/-! ## Courses -/

/-- Nothing happens to a conversation that is over. -/
theorem Stage.take_of_ended {stage : Stage} (ended : stage.keepsQueue = false)
    (timeout : Option Duration) (occurrence : Occurrence) :
    stage.take timeout occurrence = stage.idle := by
  cases stage with
  | finished => cases occurrence <;> rfl
  | lost => cases occurrence <;> rfl
  | connecting => cases ended
  | talking => cases ended
  | closing code deadline => cases ended

/-- The signals that lead to a stage. -/
inductive Course : Stage → List Signal → Prop where
  | connecting : Course .connecting []
  | talking (payloads : List String) : Course .talking (.opened :: payloads.map .message)
  | closing (payloads : List String) {code : CloseCode} (valid : code.isValid)
      (deadline : Option Instant) :
      Course (.closing code deadline) (.opened :: payloads.map .message)
  | lost (payloads : List String) : Course .lost (.opened :: payloads.map .message)
  | withdrawn : Course .finished [.ofWithdrawal]
  | failed (failure : Failure) : Course .finished [.failed failure]
  | parted (payloads : List String) {last : Signal} (parts : last.Parts) :
      Course .finished (.opened :: payloads.map .message ++ [last])

/-- The command that an occurrence reads, if it reads one, is proper. -/
def Occurrence.Proper : Occurrence → Prop
  | .overheard command | .commanded command _ _ => command.Proper
  | .connected | .failed _ | .arrived .. | .expired => True

namespace Course

variable {stage : Stage} {signals : List Signal}

/-- Idling continues every course. -/
theorem idle (course : Course stage signals) :
    Course stage.idle.stage (signals ++ stage.idle.signals) := by
  rw [show stage.idle.signals = [] from rfl, List.append_nil]
  exact course

/-- What arrives after the opening is a message, or ends the conversation, or leaves it as it is. -/
theorem receive {payloads : List String} {ours : Option CloseCode}
    (proper : ∀ code, ours = some code → code.isValid)
    (course : ∀ payloads : List String, Course stage (.opened :: payloads.map .message))
    (writable : Bool) (arrival : Arrival) :
    Course (stage.receive ours writable arrival).stage
      (.opened :: payloads.map .message ++ (stage.receive ours writable arrival).signals) := by
  have unmoved : Course stage (.opened :: payloads.map .message ++ []) := by
    rw [List.append_nil]
    exact course payloads
  cases arrival with
  | message message =>
      cases message with
      | text payload =>
          have longer := course (payloads ++ [payload])
          rw [List.map_append] at longer
          exact longer
      | close body => exact .parted payloads (.ofClose body proper)
      | binary payload => exact unmoved
      | ping payload => exact unmoved
      | pong payload => exact unmoved
  | ended => exact .parted payloads (.ofEnd proper)
  | cut => exact .parted payloads (.closed (by decide) _ _)
  | fault text => exact .parted payloads (.failed _)

/-- The stage behind our own close. -/
theorem ofClose (payloads : List String) {code : CloseCode} (valid : code.isValid)
    (timeout : Option Duration) (now : Instant) :
    Course (.ofClose code timeout now) (.opened :: payloads.map .message) := by
  unfold Stage.ofClose
  split
  · exact .closing payloads valid none
  · split
    · exact .closing payloads valid _
    · exact .lost payloads

/-- **Every turn continues the course**, if the command that is read is proper. -/
theorem take (course : Course stage signals) (timeout : Option Duration) {occurrence : Occurrence}
    (proper : occurrence.Proper) :
    Course (stage.take timeout occurrence).stage
      (signals ++ (stage.take timeout occurrence).signals) := by
  have idles := course.idle
  cases course with
  | connecting =>
      cases occurrence with
      | connected => exact .talking []
      | failed failure => exact .failed failure
      | overheard command =>
          cases command with
          | send payload => exact idles
          | close code reason => exact .withdrawn
      | arrived arrival writable => exact idles
      | commanded command result now => exact idles
      | expired => exact idles
  | talking payloads =>
      cases occurrence with
      | arrived arrival writable =>
          exact receive (fun _ ours => by cases ours) .talking writable arrival
      | commanded command result now =>
          cases result with
          | error text => exact .parted payloads (.failed _)
          | ok written =>
              cases command with
              | send payload => exact idles
              | close code reason =>
                  rw [show (Stage.take timeout .talking _).signals = [] from rfl, List.append_nil]
                  exact ofClose payloads proper.1 timeout now
      | connected => exact idles
      | failed failure => exact idles
      | overheard command => exact idles
      | expired => exact idles
  | closing payloads valid deadline =>
      cases occurrence with
      | arrived arrival writable =>
          refine receive ?_ (fun payloads => .closing payloads valid deadline) writable arrival
          intro _ ours
          cases ours
          exact valid
      | expired =>
          cases deadline with
          | none => exact idles
          | some deadline => exact .parted payloads (.closed (by decide) _ _)
      | connected => exact idles
      | failed failure => exact idles
      | overheard command => exact idles
      | commanded command result now => exact idles
  | lost payloads =>
      rw [Stage.take_of_ended rfl]
      exact idles
  | withdrawn =>
      rw [Stage.take_of_ended rfl]
      exact idles
  | failed failure =>
      rw [Stage.take_of_ended rfl]
      exact idles
  | parted payloads parts =>
      rw [Stage.take_of_ended rfl]
      exact idles

end Course

/-! ## Runs -/

namespace Link

/-- The signals lead to the stage of a link, and its queue holds proper commands. -/
structure Follows (link : Link) (signals : List Signal) : Prop where
  course : Course link.stage signals
  queue : ∀ command ∈ link.queue, command.Proper

namespace Follows

variable {link : Link} {signals : List Signal}

/-- The command that is read next is proper, and so are those behind it. -/
theorem next (follows : Follows link signals) {command : Command} {rest : List Command}
    (next : link.nextCommand? = some (command, rest)) :
    command.Proper ∧ ∀ other ∈ rest, other.Proper := by
  rcases nextCommand?_eq_some next with queue | ⟨-, -, rfl, rfl⟩
  · have proper := follows.queue
    rw [queue] at proper
    exact List.forall_mem_cons.mp proper
  · exact ⟨Command.normalClose_proper, List.forall_mem_nil _⟩

theorem proper_of_occurrence (follows : Follows link signals) {move : Move}
    {occurrence : Occurrence} (occurs : link.occurrence? move = some occurrence) :
    occurrence.Proper := by
  have reads (make : Command → Occurrence)
      (read : (link.nextCommand?.map fun next => make next.1) = some occurrence) :
      ∃ command, command.Proper ∧ occurrence = make command := by
    obtain ⟨⟨command, rest⟩, next, rfl⟩ := Option.map_eq_some_iff.mp read
    exact ⟨command, (follows.next next).1, rfl⟩
  cases move with
  | ask command => cases occurs
  | drop => cases occurs
  | connect => cases occurs; exact trivial
  | fail failure => cases occurs; exact trivial
  | arrive arrival writable => cases occurs; exact trivial
  | expire => cases occurs; exact trivial
  | overhear =>
      simp only [occurrence?] at occurs
      split at occurs
      · obtain ⟨command, proper, rfl⟩ := reads .overheard occurs
        exact proper
      · cases occurs
  | obey result now =>
      simp only [occurrence?] at occurs
      split at occurs
      · obtain ⟨command, proper, rfl⟩ := reads (.commanded · result now) occurs
        exact proper
      · cases occurs

theorem queue_read (follows : Follows link signals) (timeout : Option Duration)
    (occurrence : Command → Occurrence) :
    ∀ command ∈ (link.read timeout occurrence).queue, command.Proper := by
  unfold read
  cases next : link.nextCommand? with
  | none => exact follows.queue
  | some command => exact (follows.next next).2

/-- Only a request that is passed on adds to the queue. -/
theorem queue_step (follows : Follows link signals) (timeout : Option Duration) (move : Move) :
    ∀ command ∈ (link.step timeout move).queue, command.Proper := by
  cases move with
  | ask command =>
      simp only [step]
      split
      · unfold ask
        split
        · exact follows.queue
        · exact follows.queue
        · rename_i passed verdict
          split
          · intro other member
            rcases List.mem_append.mp member with member | member
            · exact follows.queue other member
            · obtain rfl := List.mem_singleton.mp member
              exact Verdict.proper_of_passed verdict
          · exact follows.queue
      · exact follows.queue
  | overhear =>
      simp only [step]
      split
      · exact follows.queue_read timeout .overheard
      · exact follows.queue
  | obey result now =>
      simp only [step]
      split
      · exact follows.queue_read timeout (.commanded · result now)
      · exact follows.queue
  | drop => exact follows.queue
  | connect => exact follows.queue
  | fail failure => exact follows.queue
  | arrive arrival writable => exact follows.queue
  | expire => exact follows.queue

/-- **Every move continues the course.** -/
theorem step (follows : Follows link signals) (timeout : Option Duration) (move : Move) :
    Follows (link.step timeout move) (signals ++ (link.turn timeout move).signals) := by
  refine ⟨?_, follows.queue_step timeout move⟩
  rw [(took_step timeout link move).stage_eq]
  unfold turn
  split
  · exact follows.course.idle
  · rename_i occurrence occurs
    exact follows.course.take timeout (follows.proper_of_occurrence occurs)

end Follows

theorem follows_run (timeout : Option Duration) (moves : List Move) :
    Follows (({} : Link).run timeout moves) (({} : Link).signals timeout moves) := by
  have start : Follows ({} : Link) [] := ⟨.connecting, List.forall_mem_nil _⟩
  refine run_induction ?_ start moves
  intro link signals follows move
  exact follows.step timeout move

end Link

/-! ## Stories -/

/-- How a conversation that came to its end has gone: its signals, what the host was told, and the
farewell. -/
inductive Story : List Signal → List Notice → Farewell → Prop where
  /-- It was given up before it connected. -/
  | withdrawn (reason : String) :
      Story [.closed .neverConnected reason false]
        [.closed ⟨.neverConnected, reason, false, true⟩]
        ⟨none, ⟨.neverConnected, reason, false, true⟩⟩
  /-- It failed before it connected. -/
  | failed (failure : Failure) :
      Story [.failed failure]
        [.failed failure, .closed ⟨.neverConnected, failure.message, false, false⟩]
        ⟨some failure, ⟨.neverConnected, failure.message, false, false⟩⟩
  /-- It opened, brought messages, and ended with a terminal signal. -/
  | parted (payloads : List String) {last : Signal} {farewell : Farewell}
      (ends : Farewell.ofSignal true last = some farewell) :
      Story (.opened :: payloads.map .message ++ [last])
        (.opened :: payloads.map .message ++ farewell.notices) farewell

namespace Lifecycle

variable {last : Signal} {farewell : Farewell}

/-- An open connection passes on messages, and then its farewell. -/
theorem acceptAll_parted (payloads : List String)
    (ends : Farewell.ofSignal true last = some farewell) :
    acceptAll ⟨.opened, none⟩ (payloads.map .message ++ [last]) =
      (⟨.closed, some farewell.record⟩, payloads.map .message ++ farewell.notices) := by
  induction payloads with
  | nil =>
      rw [List.map_nil, List.nil_append, acceptAll, accept_of_farewell (.inr rfl) ends]
      exact congrArg (Prod.mk _) (List.append_nil farewell.notices)
  | cons payload payloads ih =>
      have passed : accept ⟨.opened, none⟩ (.message payload) =
          (⟨.opened, none⟩, [.message payload]) := rfl
      simp only [List.map_cons, List.cons_append, acceptAll, passed, ih, List.nil_append]

theorem heeds_parted (payloads : List String)
    (ends : Farewell.ofSignal true last = some farewell) :
    Heeds ⟨.opened, none⟩ (payloads.map .message ++ [last]) := by
  induction payloads with
  | nil =>
      refine ⟨?_, trivial⟩
      rw [accept_of_farewell (.inr rfl) ends]
      exact List.append_ne_nil_of_right_ne_nil _ (List.cons_ne_nil _ _)
  | cons payload payloads ih => exact ⟨List.cons_ne_nil _ _, ih⟩

end Lifecycle

namespace Story

variable {signals : List Signal} {told : List Notice} {farewell : Farewell}

/-- A lifecycle makes of the signals of a story what the host is told in it. -/
theorem acceptAll_eq (story : Story signals told farewell) :
    ({} : Lifecycle).acceptAll signals = (⟨.closed, some farewell.record⟩, told) := by
  cases story with
  | withdrawn reason => rfl
  | failed failure => rfl
  | parted payloads ends =>
      have opened : ({} : Lifecycle).accept .opened = (⟨.opened, none⟩, [.opened]) := rfl
      simp only [List.cons_append, Lifecycle.acceptAll, opened,
        Lifecycle.acceptAll_parted payloads ends, List.nil_append]

/-- No signal of a story is dropped. -/
theorem heeds (story : Story signals told farewell) : ({} : Lifecycle).Heeds signals := by
  cases story with
  | withdrawn reason => exact ⟨List.cons_ne_nil _ _, trivial⟩
  | failed failure => exact ⟨List.cons_ne_nil _ _, trivial⟩
  | parted payloads ends =>
      exact ⟨List.cons_ne_nil _ _, Lifecycle.heeds_parted payloads ends⟩

/-- The close of a story is announced by a failure exactly if it is not clean. -/
theorem isSome_failure_iff (story : Story signals told farewell) :
    farewell.failure.isSome ↔ farewell.record.clean = false := by
  cases story with
  | withdrawn reason => simp
  | failed failure => simp
  | parted payloads ends => exact Farewell.isSome_failure_iff ends

end Story

/-- A course that came to its end is a story. -/
theorem Course.exists_story {signals : List Signal} (course : Course .finished signals) :
    ∃ told farewell, Story signals told farewell ∧
      (farewell.record.code.number = -1 ↔ .opened ∉ told) := by
  cases course with
  | withdrawn => exact ⟨_, _, .withdrawn _, by simp [CloseCode.number]⟩
  | failed failure => exact ⟨_, _, .failed failure, by simp [CloseCode.number]⟩
  | parted payloads parts =>
      obtain ⟨farewell, ends, connected⟩ := parts.exists_farewell
      refine ⟨_, _, .parted payloads ends, iff_of_false connected ?_⟩
      exact not_not_intro (List.mem_cons_self ..)

/-- A link whose conversation is over has gone through a story. -/
theorem Link.Follows.exists_story {link : Link} {signals : List Signal}
    (follows : Follows link signals) (relayed : Relayed link signals)
    (finished : link.stage = .finished) :
    ∃ farewell, Story signals link.told farewell ∧
      link.lifecycle = ⟨.closed, some farewell.record⟩ ∧
      (farewell.record.code.number = -1 ↔ .opened ∉ link.told) := by
  have course := follows.course
  rw [finished] at course
  obtain ⟨told, farewell, story, connected⟩ := course.exists_story
  obtain ⟨kept, rfl⟩ := Prod.mk.inj (story.acceptAll_eq.symm.trans relayed)
  exact ⟨farewell, story, kept.symm, connected⟩

/-- **How a conversation comes to its end.**  Whatever the moves are, a link whose conversation is
over has gone through a story: it was given up or failed before it connected, or it opened, brought
messages, and ended with one terminal signal.  No signal was dropped, the record of the farewell is
kept, a failure comes before the close exactly if that is not clean, and the code of the close is
the one of an attempt that never connected exactly if the host was never told of an opening. -/
theorem Link.story_of_run (timeout : Option Duration) (moves : List Move)
    (finished : (({} : Link).run timeout moves).stage = .finished) :
    let link := ({} : Link).run timeout moves
    let signals := ({} : Link).signals timeout moves
    ({} : Lifecycle).Heeds signals ∧
      ∃ farewell, Story signals link.told farewell ∧
        link.lifecycle = ⟨.closed, some farewell.record⟩ ∧
        (farewell.failure.isSome ↔ farewell.record.clean = false) ∧
        (farewell.record.code.number = -1 ↔ .opened ∉ link.told) := by
  intro link signals
  obtain ⟨farewell, story, kept, connected⟩ :=
    (follows_run timeout moves).exists_story (relayed_run timeout moves) finished
  exact ⟨story.heeds, farewell, story, kept, story.isSome_failure_iff, connected⟩

/-- The peer sends a message and closes without a status. -/
theorem Link.story_of_remote_close :
    (({} : Link).run none
        [.connect, .arrive (.message (.text "hello")) true, .arrive (.message (.close none)) true]
      ).stage = .finished ∧
      ∃ farewell,
        Story [.opened, .message "hello", .closed .noStatus "" true]
          [.opened, .message "hello", .failed (.abnormalClose .noStatus ""),
            .closed ⟨.noStatus, "", true, false⟩] farewell := by
  have finished : (({} : Link).run none
      [.connect, .arrive (.message (.text "hello")) true, .arrive (.message (.close none)) true]
    ).stage = .finished := rfl
  obtain ⟨-, farewell, story, -⟩ := story_of_run none _ finished
  exact ⟨finished, farewell, story⟩

end WebSocketClient
