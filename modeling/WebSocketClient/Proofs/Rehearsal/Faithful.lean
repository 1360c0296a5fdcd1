import WebSocketClient.Proofs.Lifecycle
import WebSocketClient.Proofs.Rehearsal.Moment

/-!
# What the listener has been told

Calls nest to any depth, and still the listener is told what it would be told if the signals came
one after another.  The reason is an invariant of moments (`Moment.Faithful`): what the listener has
been told, followed by what it is still owed, is what a lifecycle tells for the signals that were
reported so far.

It can be kept because hardly anything is ever owed.  While the listener is told of a failure it is
owed the close, and nothing else; by then the connection is closed, so that whatever is signalled in
the meantime is told to nobody.
-/

namespace WebSocketClient

set_option autoImplicit false

/-- The notice that an entry of the log passes on. -/
def Entry.notice? : Entry → Option Notice
  | call (.notice notice) _ => some notice
  | _ => none

theorem Entry.eq_of_notice? {entry : Entry} {notice : Notice}
    (told : entry.notice? = some notice) : ∃ sight, entry = .call (.notice notice) sight := by
  cases entry with
  | step during step outcome => cases told
  | call call sight =>
      cases call <;> cases told
      exact ⟨sight, rfl⟩

/-- A listener that posts runs no code. -/
theorem Listener.calls_eq_false_of_posts (listener : Listener) (posts : listener.posts)
    (kind : NoticeKind) : listener.calls kind = false := by
  induction listener with
  | mailbox => rfl
  | shared listener ih => exact ih posts
  | boxed listener ih => exact ih posts
  | recorder => cases posts
  | callbacks set => cases posts
  | silent => cases posts

namespace Rehearsal

/-- The notices of a log. -/
def told (rehearsal : Rehearsal) : List Notice :=
  rehearsal.log.filterMap Entry.notice?

section Tell

variable (rehearsal : Rehearsal) (notice : Notice)

theorem told_record (entry : Entry) :
    (rehearsal.record entry).told = rehearsal.told ++ entry.notice?.toList := by
  unfold told record
  rw [List.filterMap_append]
  cases seen : entry.notice? <;> simp [seen]

theorem told_tell :
    (rehearsal.tell notice).told =
      rehearsal.told ++ [notice].filter (rehearsal.listener.calls ·.kind) := by
  by_cases posts : rehearsal.listener.posts
  · have quiet := rehearsal.listener.calls_eq_false_of_posts posts notice.kind
    simp [tell, told, posts, quiet]
  · by_cases calls : rehearsal.listener.calls notice.kind
    · simp [tell, told_record, posts, calls, Entry.notice?]
    · simp [tell, posts, calls]

theorem told_pass (command : Command) : (rehearsal.pass command).told = rehearsal.told := by
  unfold pass
  dsimp only
  split
  · rw [told_record]
    cases command <;> simp [Call.ofCommand, Entry.notice?, told]
  · rfl

end Tell

end Rehearsal

/-! ## The invariant of moments -/

/-- The listener has been told, or is owed, what the lifecycle tells for the signals so far, and it
is owed at most the close. -/
structure Moment.Faithful (listener : Listener) (moment : Moment) : Prop where
  listener_eq : moment.now.listener = listener
  lifecycle_eq : moment.now.lifecycle = (({} : Lifecycle).acceptAll moment.now.reported).1
  told_eq : moment.now.told ++ moment.owed.filter (listener.calls ·.kind) =
    (({} : Lifecycle).acceptAll moment.now.reported).2.filter (listener.calls ·.kind)
  owed_cases : moment.owed = [] ∨ ∃ record, moment.owed = [.closed record] ∧
    moment.now.lifecycle = ⟨.closed, some record⟩

namespace Moment.Faithful

open Rehearsal

variable {listener : Listener} {owed : List Notice} {now : Rehearsal}

theorem settled (faithful : Faithful listener ⟨owed, now⟩) : now.lifecycle.Settled := by
  rw [faithful.lifecycle_eq]
  exact Lifecycle.settled_acceptAll now.reported

/-- Nothing is owed while the host still learns of signals. -/
theorem owed_eq_nil (faithful : Faithful listener ⟨owed, now⟩) {signal : Signal} {first : Notice}
    {rest : List Notice} (notices : (now.lifecycle.accept signal).2 = first :: rest) :
    owed = [] := by
  rcases faithful.owed_cases with none | ⟨record, -, closed⟩
  · exact none
  · rw [show now.lifecycle = _ from closed, Lifecycle.accept_closed] at notices
    cases notices

/-- Changes that leave alone what was told and what was signalled keep the invariant. -/
theorem of_same (faithful : Faithful listener ⟨owed, now⟩) {after : Rehearsal}
    (listener_eq : after.listener = now.listener) (lifecycle_eq : after.lifecycle = now.lifecycle)
    (reported_eq : after.reported = now.reported) (told_eq : after.told = now.told) :
    Faithful listener ⟨owed, after⟩ where
  listener_eq := listener_eq.trans faithful.listener_eq
  lifecycle_eq := by
    show after.lifecycle = _
    rw [lifecycle_eq, reported_eq]
    exact faithful.lifecycle_eq
  told_eq := by
    show after.told ++ _ = _
    rw [told_eq, reported_eq]
    exact faithful.told_eq
  owed_cases := by
    show _ ∨ ∃ record, _ ∧ after.lifecycle = _
    rw [lifecycle_eq]
    exact faithful.owed_cases

/-- The signals so far, and one more. -/
theorem acceptAll_hear (faithful : Faithful listener ⟨owed, now⟩) (signal : Signal) :
    ({} : Lifecycle).acceptAll (now.hear signal).reported =
      ((now.hear signal).lifecycle,
        (({} : Lifecycle).acceptAll now.reported).2 ++ (now.lifecycle.accept signal).2) := by
  show ({} : Lifecycle).acceptAll (now.reported ++ [signal]) = _
  rw [Lifecycle.acceptAll_append, ← faithful.lifecycle_eq]
  simp only [Lifecycle.acceptAll, List.append_nil]
  rfl

/-- Whatever happens keeps the invariant. -/
theorem next {before after : Moment} (faithful : Faithful listener before)
    (next : Next before after) : Faithful listener after := by
  cases next with
  | @dropped owed now signal untold =>
      have signals := faithful.acceptAll_hear signal
      rw [untold, List.append_nil] at signals
      refine ⟨faithful.listener_eq, ?_, ?_, ?_⟩
      · rw [signals]
      · rw [signals]
        exact faithful.told_eq
      · refine faithful.owed_cases.imp_right ?_
        rintro ⟨record, same, closed⟩
        refine ⟨record, same, ?_⟩
        show (now.lifecycle.accept signal).1 = _
        rw [show now.lifecycle = _ from closed, Lifecycle.accept_closed]
  | @heard owed now signal first rest notices =>
      obtain rfl := faithful.owed_eq_nil notices
      have signals := faithful.acceptAll_hear signal
      have told := faithful.told_eq
      rw [List.filter_nil, List.append_nil] at told
      refine ⟨?_, ?_, ?_, ?_⟩
      · rw [tell_listener]
        exact faithful.listener_eq
      · rw [tell_lifecycle, tell_reported, signals]
      · rw [told_tell, tell_reported, signals, List.append_nil, notices]
        show now.told ++ [first].filter (now.listener.calls ·.kind) ++ _ = _
        rw [faithful.listener_eq, told, List.append_assoc, ← List.filter_append,
          ← List.filter_append, List.singleton_append]
      · rw [tell_lifecycle, List.append_nil]
        exact (faithful.settled.notices_of_accept notices).2
  | @told owed now notice =>
      have one : owed = [] := by
        rcases faithful.owed_cases with none | ⟨record, same, -⟩
        · cases none
        · exact (List.cons.inj same).2
      subst one
      refine ⟨?_, ?_, ?_, .inl rfl⟩
      · rw [tell_listener]
        exact faithful.listener_eq
      · rw [tell_lifecycle, tell_reported]
        exact faithful.lifecycle_eq
      · rw [told_tell, tell_reported, faithful.listener_eq, List.filter_nil, List.append_nil]
        exact faithful.told_eq
  | connect endpoint settings =>
      exact faithful.of_same rfl rfl rfl (by simp [told_record, Entry.notice?])
  | passed command verdict =>
      exact faithful.of_same (by simp) (by simp) (by simp) (told_pass _ command)
  | noted during step shown =>
      exact faithful.of_same rfl rfl rfl (by simp [told_record, Entry.notice?])
  | aside sink handle service reactions => exact faithful.of_same rfl rfl rfl rfl
  | read => exact faithful.of_same rfl rfl rfl rfl
  | readerDropped => exact faithful.of_same rfl rfl rfl rfl
  | writerDropped => exact faithful.of_same rfl rfl rfl rfl

/-- A rehearsal begins with nothing signalled, told or owed. -/
theorem ofScene (scene : Rehearsal.Scene) :
    Faithful scene.listener ⟨[], Rehearsal.ofScene scene⟩ :=
  ⟨rfl, rfl, rfl, .inl rfl⟩

end Moment.Faithful

end WebSocketClient
