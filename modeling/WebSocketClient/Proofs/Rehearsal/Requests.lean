import WebSocketClient.Proofs.Rehearsal.Runs

/-!
# What a transport is asked

A transport is asked for what the appeals of its host ask for and for nothing else, and each appeal
is answered as it should be.  A closed connection passes nothing on, so that the transport is asked
nothing once its host is told of the end (`requests_of_run`).
-/

namespace WebSocketClient

set_option autoImplicit false

/-! ## Nothing after the end -/

/-- What could be seen when a transport was called. -/
theorem Entry.look?_of_command? {entry : Entry} {command : Command} {sight : Sight}
    (called : entry.command? = some (command, sight)) :
    entry.look? = some (.whole sight.state sight.record) := by
  cases entry with
  | step during step outcome => cases called
  | call call seen => cases call <;> cases called <;> rfl

theorem Rehearsal.asked_tell (rehearsal : Rehearsal) (notice : Notice) :
    (rehearsal.tell notice).asked = rehearsal.asked := by
  rw [tell_eq]

namespace Moment

open Rehearsal

/-- A closed connection stays closed, and its transport is asked nothing. -/
theorem Next.of_closed {before after : Moment} (next : Next before after)
    (closed : before.now.lifecycle.state = .closed) :
    after.now.lifecycle.state = .closed ∧ after.now.asked = before.now.asked := by
  cases next with
  | @dropped owed now signal untold =>
      exact ⟨Lifecycle.state_accept_of_closed closed signal, rfl⟩
  | @heard owed now signal first rest notices =>
      rw [tell_lifecycle, asked_tell]
      exact ⟨Lifecycle.state_accept_of_closed closed signal, rfl⟩
  | told notice =>
      rw [tell_lifecycle, asked_tell]
      exact ⟨closed, rfl⟩
  | @passed owed now command verdict =>
      rw [show now.lifecycle.state = _ from closed] at verdict
      exact absurd verdict (Verdict.ofRequest_closed_ne command command)
  | connect endpoint settings => exact ⟨closed, rfl⟩
  | noted during step shown => exact ⟨closed, rfl⟩
  | aside sink handle service reactions => exact ⟨closed, rfl⟩
  | read => exact ⟨closed, rfl⟩
  | readerDropped => exact ⟨closed, rfl⟩
  | writerDropped => exact ⟨closed, rfl⟩

theorem Reaches.asked_of_closed {before after : Moment} (reaches : Reaches before after)
    (closed : before.now.lifecycle.state = .closed) : after.now.asked = before.now.asked := by
  have kept : after.now.lifecycle.state = .closed ∧ after.now.asked = before.now.asked := by
    induction reaches with
    | refl => exact ⟨closed, rfl⟩
    | tail _ next ih =>
        obtain ⟨still, same⟩ := next.of_closed ih.1
        exact ⟨still, same.trans ih.2⟩
  exact kept.2

/-- A log shows no command behind a notice of the end: whoever is told of the end sees a closed
connection, and so does whoever looks later. -/
theorem Stretch.pairwise_command {before after : Moment} {entries : List Entry}
    (stretch : Stretch before after entries)
    (proper : ∀ entry ∈ entries, ∀ command sight, entry.command? = some (command, sight) →
      command.MayBeAsked sight.state) :
    entries.Pairwise fun earlier later =>
      ∀ notice ∈ earlier.notice?, notice.isFarewell → later.command? = none := by
  have climbs := List.pairwise_filterMap.mp stretch.passage.climbs.pairwise
  refine climbs.imp_of_mem ?_
  intro earlier later told commanded le notice passed ends
  cases called : later.command? with
  | none => rfl
  | some ask =>
      obtain ⟨command, sight⟩ := ask
      obtain ⟨seen, rfl⟩ := Entry.eq_of_notice? passed
      have closed : seen.state = .closed :=
        (stretch.truthful _ told notice seen rfl).state_of_isFarewell ends
      have later_closed : ReadyState.closed.number ≤ sight.state.number := by
        rw [← closed]
        exact le _ rfl _ (Entry.look?_of_command? called)
      exact absurd (ReadyState.eq_closed_of_number_le later_closed)
        (proper later commanded command sight called).state_ne_closed

end Moment

namespace Rehearsal

open Moment (Reaches)

/-- **What becomes of requests.**  Whatever a script does and however its calls nest, the transport
is asked for what the appeals of the host ask for, in their order and with their arguments.  The
appeals are the requests that the log and the outcomes of the script show, and each of them is
answered as it should be; a close without further words is refused only by the transport itself.  A
transport is asked to send only while the connection is open, and to close only before it is closed
and with a code and a reason that may be sent.  It is never called from inside a call that tells of
the end, nor later, and once the connection is closed it is asked for nothing more. -/
theorem requests_of_run (scene : Scene) (steps : List Step) :
    let made := Appeals.ofScript scene steps
    let log := (run scene steps).flatMap Frame.log
    (ending scene steps).asked = made.filterMap Appeal.asked? ∧
      log.filterMap Entry.command? = made.filterMap Appeal.called? ∧
      (log.flatMap Entry.requests ++ Step.requestsAll steps (outcomes scene steps)).Perm
        (made.map Appeal.shown) ∧
      (∀ appeal ∈ made, appeal.outcome = .ofResult appeal.answer) ∧
      (∀ appeal ∈ made, appeal.command = .normalClose →
        ∀ failure, appeal.answer = .error failure → appeal.service.answer = .error failure) ∧
      (∀ command sight, (command, sight) ∈ (ending scene steps).asked →
        command.MayBeAsked sight.state) ∧
      (log.Pairwise fun earlier later =>
        ∀ notice ∈ earlier.notice?, notice.isFarewell → later.command? = none) ∧
      ∀ moment, Reaches ⟨[], ofScene scene⟩ moment → moment.now.lifecycle.state = .closed →
        ∀ later, Reaches moment later → later.now.asked = moment.now.asked := by
  intro made log
  obtain ⟨-, asked_eq, answered, entries, entries_eq, called, shown⟩ := accounts_ending scene steps
  obtain ⟨-, others, stretch⟩ :=
    (Moment.Faithful.ofScene scene).exists_stretch (ending_reaches scene steps)
  obtain rfl : log = entries := (log_run scene steps).trans entries_eq
  obtain rfl : log = others := (log_run scene steps).trans stretch.log_eq
  refine ⟨asked_eq, called, shown, answered, ?_, ?_, stretch.pairwise_command ?_, ?_⟩
  · intro appeal member normal failure refused
    rw [Appeal.answer_normalClose normal] at refused
    split at refused
    · cases refused
    · exact refused
  · intro command sight member
    rw [asked_eq] at member
    obtain ⟨appeal, -, asked⟩ := List.mem_filterMap.mp member
    exact appeal.mayBeAsked asked
  · intro entry member command sight commanded
    have listed := List.mem_filterMap.mpr ⟨entry, member, commanded⟩
    rw [called] at listed
    obtain ⟨appeal, -, asked⟩ := List.mem_filterMap.mp listed
    exact appeal.mayBeAsked (Appeal.asked?_of_called? asked)
  · intro moment reached closed later reaches
    exact reaches.asked_of_closed closed

end Rehearsal

end WebSocketClient
