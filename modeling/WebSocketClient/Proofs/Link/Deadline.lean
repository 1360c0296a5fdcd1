import WebSocketClient.Proofs.Duration
import WebSocketClient.Proofs.Link.Attempt

/-!
# The deadline of a close

Once our own close is written, its answer is awaited until a deadline: a point on the clock, found
by adding a time limit to the instant of writing.  The addition is exact as long as the clock can
show the sum (`Instant.total_of_add?`), and when it cannot, there is no deadline
(`Instant.add?_eq_none_iff`).  What then becomes of the connection depends on this one addition
(`deadline_of_run`).

* If the clock can show the deadline, or if there is no limit, the conversation goes on.  It ends
  when the deadline passes, if it did not end before, and its host is told one close.
* If the clock cannot show the deadline, the conversation breaks off.  The connection stays open for
  its host, which is told nothing more, and every later request is without effect.

The limit of the opening handshake goes through no such addition: an attempt that takes too long
ends with one close for every limit.
-/

namespace WebSocketClient

set_option autoImplicit false

/-! ## Adding to the clock -/

namespace Instant

/-- An instant in nanoseconds since the clock showed zero. -/
def total (instant : Instant) : Int :=
  instant.seconds.toInt * 1000000000 + instant.nanoseconds.val

/-- The clock can show the instant that is a duration later. -/
def CanAdd (instant : Instant) (duration : Duration) : Prop :=
  instant.total + duration.total < (lastSecond + 1) * 1000000000

/-- The seconds of a sum are within the clock exactly if the sum is. -/
theorem canAdd_iff {instant : Instant} {duration : Duration} :
    instant.CanAdd duration ↔
      instant.seconds.toInt + duration.seconds.toNat +
        ((instant.nanoseconds.val + duration.nanoseconds.val) / 1000000000 : Nat) ≤ lastSecond := by
  simp only [CanAdd, total, Duration.total]
  omega

theorem add?_eq_none_iff {instant : Instant} {duration : Duration} :
    instant.add? duration = none ↔ ¬instant.CanAdd duration := by
  rw [canAdd_iff]
  simp only [add?]
  split <;> simp_all

/-- **A sum that the clock can show is exact.** -/
theorem total_of_add? {instant later : Instant} {duration : Duration}
    (added : instant.add? duration = some later) :
    later.total = instant.total + duration.total := by
  simp only [add?] at added
  split at added
  · rename_i fits
    obtain rfl := Option.some.inj added
    have first := instant.seconds.le_toInt
    rw [lastSecond] at fits
    simp only [total, Duration.total]
    rw [Int64.toInt_ofInt_of_le (by omega) (by omega)]
    omega
  · cases added

/-- Every duration can be added as long as it is short enough for the instant. -/
theorem exists_add? {instant : Instant} {duration : Duration} (shown : instant.CanAdd duration) :
    ∃ later, instant.add? duration = some later ∧
      later.total = instant.total + duration.total := by
  cases added : instant.add? duration with
  | none => exact absurd shown (add?_eq_none_iff.mp added)
  | some later => exact ⟨later, rfl, total_of_add? added⟩

end Instant

namespace Stage

variable {code : CloseCode} {timeout : Option Duration} {now : Instant}

/-- The deadline of a close that is written at an instant: a limit reaches beyond the clock or
not. -/
def Overruns (timeout : Option Duration) (now : Instant) : Prop :=
  ∃ limit, timeout = some limit ∧ ¬now.CanAdd limit

theorem ofClose_eq_lost_iff : ofClose code timeout now = lost ↔ Overruns timeout now := by
  cases timeout with
  | none =>
      refine iff_of_false Stage.noConfusion ?_
      rintro ⟨limit, same, -⟩
      cases same
  | some limit =>
      have overruns : Overruns (some limit) now ↔ now.add? limit = none := by
        rw [Instant.add?_eq_none_iff]
        constructor
        · rintro ⟨other, same, beyond⟩
          cases same
          exact beyond
        · intro beyond
          exact ⟨limit, rfl, beyond⟩
      rw [overruns]
      simp only [ofClose]
      cases now.add? limit <;> simp

end Stage

/-! ## Conversations that break off -/

/-- An occurrence that breaks off a conversation: a close is written while talking, and the clock
cannot show its deadline. -/
def Occurrence.Breaks (timeout : Option Duration) (stage : Stage) (occurrence : Occurrence) :
    Prop :=
  ∃ code reason now, stage = .talking ∧ occurrence = .commanded (.close code reason) (.ok ()) now ∧
    Stage.Overruns timeout now

/-- **Nothing else breaks off a conversation.** -/
theorem Stage.take_eq_lost_iff {timeout : Option Duration} {stage : Stage}
    {occurrence : Occurrence} :
    (stage.take timeout occurrence).stage = .lost ↔
      stage = .lost ∨ occurrence.Breaks timeout stage := by
  have silently (silent : occurrence.Silent)
      (broken : (stage.take timeout occurrence).stage = .lost) :
      stage = .lost := by
    rcases silent.stage_take timeout stage with same | finished | ⟨-, talking⟩
    · rw [← same, broken]
    · rw [broken] at finished
      cases finished
    · rw [broken] at talking
      cases talking
  constructor
  · intro broken
    cases occurrence with
    | commanded command result now =>
        cases stage with
        | talking =>
            cases result with
            | error text => cases broken
            | ok written =>
                cases command with
                | send payload => cases broken
                | close code reason =>
                    exact .inr ⟨code, reason, now, rfl, rfl, ofClose_eq_lost_iff.mp broken⟩
        | lost => exact .inl rfl
        | connecting => cases broken
        | closing code deadline => cases broken
        | finished => cases broken
    | overheard command =>
        cases stage with
        | lost => exact .inl rfl
        | connecting => cases command <;> cases broken
        | talking => cases broken
        | closing code deadline => cases broken
        | finished => cases broken
    | connected => exact .inl (silently trivial broken)
    | failed failure => exact .inl (silently trivial broken)
    | arrived arrival writable => exact .inl (silently trivial broken)
    | expired => exact .inl (silently trivial broken)
  · rintro (rfl | ⟨code, reason, now, rfl, rfl, overruns⟩)
    · rw [take_of_ended rfl]
      rfl
    · exact ofClose_eq_lost_iff.mpr overruns

namespace Link

variable {timeout : Option Duration}

/-- A move that breaks off the conversation: the transport reads a close while it is talking, writes
it, and the clock cannot show the deadline. -/
def Breaks (timeout : Option Duration) (link : Link) (move : Move) : Prop :=
  ∃ code reason rest now, link.stage = .talking ∧
    link.nextCommand? = some (.close code reason, rest) ∧ move = .obey (.ok ()) now ∧
    Stage.Overruns timeout now

theorem stage_step_eq_lost_iff {link : Link} {move : Move} :
    (link.step timeout move).stage = .lost ↔ link.stage = .lost ∨ Breaks timeout link move := by
  rw [(took_step timeout link move).stage_eq, turn]
  constructor
  · intro broken
    cases occurs : link.occurrence? move with
    | none =>
        rw [occurs] at broken
        exact .inl broken
    | some occurrence =>
        rw [occurs] at broken
        refine (Stage.take_eq_lost_iff.mp broken).imp_right ?_
        rintro ⟨code, reason, now, talking, rfl, overruns⟩
        cases move with
        | obey result other =>
            obtain ⟨-, command, rest, next, same⟩ := eq_commanded occurs
            cases same
            exact ⟨code, reason, rest, now, talking, next, rfl, overruns⟩
        | overhear =>
            obtain ⟨-, command, rest, next, same⟩ := eq_overheard occurs
            cases same
        | _ => cases occurs
  · rintro (lost | ⟨code, reason, rest, now, talking, next, rfl, overruns⟩)
    · split
      · exact lost
      · exact Stage.take_eq_lost_iff.mpr (.inl lost)
    · simp only [occurrence?, talking, next, Option.map_some]
      exact Stage.ofClose_eq_lost_iff.mpr overruns

/-- **A conversation breaks off exactly in a move that breaks it off.** -/
theorem stage_run_eq_lost_iff {moves : List Move} :
    (({} : Link).run timeout moves).stage = .lost ↔
      ∃ earlier move later, moves = earlier ++ move :: later ∧
        Breaks timeout (({} : Link).run timeout earlier) move := by
  induction moves using List.reverseRecOn with
  | nil =>
      refine iff_of_false Stage.noConfusion ?_
      rintro ⟨earlier, move, later, same, -⟩
      exact List.append_ne_nil_of_right_ne_nil _ (List.cons_ne_nil _ _) same.symm
  | append_singleton moves move ih =>
      rw [run_concat, stage_step_eq_lost_iff, ih]
      constructor
      · rintro (⟨earlier, other, later, rfl, breaks⟩ | breaks)
        · exact ⟨earlier, other, later ++ [move], by simp, breaks⟩
        · exact ⟨moves, move, [], rfl, breaks⟩
      · rintro ⟨earlier, other, later, same, breaks⟩
        rcases List.eq_nil_or_concat later with rfl | ⟨later, last, rfl⟩
        · obtain ⟨rfl, last⟩ := List.append_inj' same rfl
          cases last
          exact .inr breaks
        · rw [List.concat_eq_append, ← List.cons_append, ← List.append_assoc] at same
          obtain ⟨rfl, -⟩ := List.append_inj' same rfl
          exact .inl ⟨earlier, other, later, rfl, breaks⟩

/-- Nothing is told or sent any more once a conversation is over or broke off. -/
theorem run_of_ended (timeout : Option Duration) {link : Link}
    (ended : link.stage.keepsQueue = false) (moves : List Move) :
    let after := link.run timeout moves
    after.stage = link.stage ∧ after.lifecycle = link.lifecycle ∧ after.told = link.told ∧
      after.sent = link.sent := by
  induction moves generalizing link with
  | nil => exact ⟨rfl, rfl, rfl, rfl⟩
  | cons move moves ih =>
      have took := took_step timeout link move
      rw [turn_of_ended ended] at took
      have same : (link.step timeout move).stage = link.stage := took.stage_eq
      obtain ⟨stage, lifecycle, told, sent⟩ := ih (by rw [same]; exact ended)
      refine ⟨stage.trans same, lifecycle.trans took.lifecycle_eq, ?_, ?_⟩
      · exact told.trans (took.told_eq.trans (List.append_nil link.told))
      · exact sent.trans (took.sent_eq.trans (List.append_nil link.sent))

end Link

/-! ## Counting closes -/

theorem Notice.countP_isClosing_messages (payloads : List String) :
    (opened :: payloads.map message).countP isClosing = 0 := by
  simp [List.countP_eq_zero, isClosing, kind]

/-- A story has one close. -/
theorem Story.countP_isClosing {signals : List Signal} {told : List Notice} {farewell : Farewell}
    (story : Story signals told farewell) : told.countP Notice.isClosing = 1 := by
  cases story with
  | withdrawn reason => rfl
  | failed failure => rfl
  | parted payloads ends =>
      have last : farewell.notices.countP Notice.isClosing = 1 := by
        obtain ⟨failure, record⟩ := farewell
        cases failure <;> rfl
      rw [List.countP_append, Notice.countP_isClosing_messages, last]

namespace Link

variable {timeout : Option Duration}

/-- A link whose conversation has not ended was told no close. -/
theorem countP_isClosing_of_going {link : Link} {signals : List Signal}
    (standing : Standing link signals) (going : link.stage ≠ .finished) :
    link.told.countP Notice.isClosing = 0 := by
  rcases standing with ⟨-, -, -, told⟩ | ⟨payloads, -, -, -, told⟩ | ⟨finished, -, -⟩
  · rw [told]
    rfl
  · rw [told]
    exact Notice.countP_isClosing_messages payloads
  · exact absurd finished going

/-- A link that is past its attempt and not finished is open for its host. -/
theorem lifecycle_of_going {link : Link} {signals : List Signal} (standing : Standing link signals)
    (past : link.stage ≠ .connecting) (going : link.stage ≠ .finished) :
    link.lifecycle = ⟨.opened, none⟩ := by
  rcases standing with ⟨connecting, -, -, -⟩ | ⟨-, -, -, lifecycle, -⟩ | ⟨finished, -, -⟩
  · exact absurd connecting past
  · exact lifecycle
  · exact absurd finished going

/-- A close that is written is sent, and told to nobody yet.  Whether there is a deadline for its
answer depends on the clock. -/
theorem step_of_close {link : Link} {code : CloseCode} {reason : String} {rest : List Command}
    (timeout : Option Duration) (now : Instant) (talking : link.stage = .talking)
    (next : link.nextCommand? = some (.close code reason, rest)) :
    let after := link.step timeout (.obey (.ok ()) now)
    after.sent = link.sent ++ [.asked (.close (some (.ofRequest code reason)))] ∧
      after.told = link.told ∧
      ∀ limit, timeout = some limit →
        (now.CanAdd limit → ∃ deadline, deadline.total = now.total + limit.total ∧
          after.stage = .closing code (some deadline)) ∧
        (¬now.CanAdd limit → after.stage = .lost) := by
  intro after
  have took := took_step timeout link (.obey (.ok ()) now)
  have turn : link.turn timeout (.obey (.ok ()) now) =
      Stage.obey timeout now (.close code reason) := by
    simp only [Link.turn, occurrence?, talking, next, Option.map_some]
    rfl
  rw [turn] at took
  refine ⟨took.sent_eq, took.told_eq.trans (List.append_nil link.told), ?_⟩
  rintro limit rfl
  have stage : after.stage = Stage.ofClose code (some limit) now := took.stage_eq
  rw [stage]
  constructor
  · intro fits
    obtain ⟨deadline, added, total⟩ := Instant.exists_add? fits
    refine ⟨deadline, total, ?_⟩
    simp only [Stage.ofClose, added]
  · intro beyond
    exact Stage.ofClose_eq_lost_iff.mpr ⟨limit, rfl, beyond⟩

/-- A deadline that passes ends the conversation with one close. -/
theorem told_of_expire {link : Link} {signals : List Signal} (standing : Standing link signals)
    {code : CloseCode} {deadline : Instant} (closing : link.stage = .closing code (some deadline)) :
    let ended := link.step timeout .expire
    ended.stage = .finished ∧ ended.told =
      link.told ++ [.closed ⟨.abnormal, "close handshake timed out", false, true⟩] := by
  have lifecycle : link.lifecycle = ⟨.opened, none⟩ := by
    apply lifecycle_of_going standing <;> rw [closing] <;> exact Stage.noConfusion
  have took := took_step timeout link .expire
  have turn : link.turn timeout .expire =
      { stage := .finished, signals := [.ofExpiry] } := by
    simp only [Link.turn, occurrence?, closing]
    rfl
  rw [turn] at took
  have told := took.told_eq
  rw [lifecycle] at told
  exact ⟨took.stage_eq, told⟩

/-! ## Whole runs -/

/-- **The deadline of a close.**  A conversation breaks off exactly when our close is written at an
instant to which the time limit cannot be added.  Its connection then stays open for the host for
good, without a close.  A close for which the limit can be added is waited for until exactly so much
later, and if the deadline passes, the host is told one close.  A conversation that ended has told
one close, and any other none.  An attempt that takes too long ends with one close for every
limit. -/
theorem deadline_of_run (timeout : Option Duration) (moves : List Move) :
    let link := ({} : Link).run timeout moves
    (link.stage = .lost ↔
      ∃ earlier move later, moves = earlier ++ move :: later ∧
        Breaks timeout (({} : Link).run timeout earlier) move) ∧
    (link.stage = .lost →
      link.lifecycle = ⟨.opened, none⟩ ∧ link.told.countP Notice.isClosing = 0 ∧
        ∀ more, let later := link.run timeout more
          later.stage = .lost ∧ later.lifecycle = link.lifecycle ∧ later.told = link.told ∧
            later.sent = link.sent) ∧
    (link.stage = .finished →
      link.lifecycle.state = .closed ∧ link.told.countP Notice.isClosing = 1) ∧
    (link.stage ≠ .finished → link.told.countP Notice.isClosing = 0) ∧
    (∀ code reason rest now, link.stage = .talking →
      link.nextCommand? = some (.close code reason, rest) →
      let after := link.step timeout (.obey (.ok ()) now)
      after.sent = link.sent ++ [.asked (.close (some (.ofRequest code reason)))] ∧
        after.told = link.told ∧
        ∀ limit, timeout = some limit →
          (now.CanAdd limit → ∃ deadline, deadline.total = now.total + limit.total ∧
            after.stage = .closing code (some deadline)) ∧
          (¬now.CanAdd limit → after.stage = .lost)) ∧
    (∀ code deadline, link.stage = .closing code (some deadline) →
      let ended := link.step timeout .expire
      ended.stage = .finished ∧
        ended.told = link.told ++ [.closed ⟨.abnormal, "close handshake timed out", false, true⟩]) ∧
    (link.stage = .connecting → ∀ limit,
      let ended := link.step timeout (.fail (.handshakeTimeout limit))
      ended.stage = .finished ∧
        ended.told = [.failed (.handshakeTimeout limit),
          .closed ⟨.neverConnected, (Failure.handshakeTimeout limit).message, false, false⟩]) := by
  intro link
  have standing : Standing link _ := standing_run timeout moves
  refine ⟨stage_run_eq_lost_iff, ?_, ?_, ?_, ?_, ?_, ?_⟩
  · intro lost
    have going : link.stage ≠ .finished := by
      rw [lost]
      exact Stage.noConfusion
    have past : link.stage ≠ .connecting := by
      rw [lost]
      exact Stage.noConfusion
    refine ⟨lifecycle_of_going standing past going, countP_isClosing_of_going standing going, ?_⟩
    intro more
    have ended : link.stage.keepsQueue = false := by
      rw [lost]
      rfl
    have idle := run_of_ended timeout ended more
    rw [lost] at idle
    exact idle
  · intro finished
    obtain ⟨farewell, story, lifecycle⟩ := standing.of_finished finished
    exact ⟨congrArg Lifecycle.state lifecycle, story.countP_isClosing⟩
  · exact countP_isClosing_of_going standing
  · intro code reason rest now talking next
    exact step_of_close timeout now talking next
  · intro code deadline closing
    exact told_of_expire standing closing
  · intro connecting limit
    obtain ⟨-, fresh, silent⟩ := standing.of_connecting connecting
    exact told_of_fail connecting fresh silent timeout (.handshakeTimeout limit)

/-- A host that gives up its handle, with a limit that is longer than the clock. -/
theorem lost_of_long_timeout :
    let timeout : Option Duration := some ⟨18446744073709551615, 0⟩
    let link := ({} : Link).run timeout [.connect, .drop, .obey (.ok ()) .origin]
    link.sent = [.asked (.close (some ⟨1000, ""⟩))] ∧ link.stage = .lost ∧
      link.lifecycle.state = .opened ∧
      ¬∃ more, (link.run timeout more).told.countP Notice.isClosing = 1 := by
  intro timeout link
  have beyond : ¬Instant.origin.CanAdd ⟨18446744073709551615, 0⟩ := by
    rw [Instant.canAdd_iff]
    decide
  have overruns : Stage.Overruns timeout .origin := ⟨_, rfl, beyond⟩
  have lost : Stage.ofClose .normal timeout .origin = .lost :=
    Stage.ofClose_eq_lost_iff.mpr overruns
  have ended : link.stage.keepsQueue = false := congrArg Stage.keepsQueue lost
  refine ⟨rfl, lost, rfl, ?_⟩
  rintro ⟨more, told⟩
  obtain ⟨-, -, same, -⟩ := run_of_ended timeout ended more
  rw [same] at told
  cases told

end Link

end WebSocketClient
