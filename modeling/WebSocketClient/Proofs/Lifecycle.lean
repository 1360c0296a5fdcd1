import WebSocketClient.Lifecycle

/-!
# What a host is told

A list of signals decides what a host is told, and two of its signals decide most of it: the first
terminal signal and the first opening before it.  The host is told of the opening, of every message
between the two, and then of the end: of a failure if there is one, and of the close
(`Notice.ofSignals`).  The end itself is a farewell, which the terminal signal determines together
with the question whether the connection had opened (`Farewell.ofSignal`).

A lifecycle that takes the signals in one after another tells exactly this, and keeps the record of
the farewell (`acceptAll_fresh`).  The proof goes by the three shapes that a lifecycle can have
between two signals (`Lifecycle.Settled`).  Closing is not among them: a lifecycle passes through it
while it takes in a terminal signal.
-/

namespace WebSocketClient

set_option autoImplicit false

/-! ## Farewells -/

/-- How a connection ends: the failure that the host is told of first, if there is one, and the
record of the close. -/
structure Farewell where
  failure : Option Failure
  record : CloseRecord

namespace Farewell

/-- The notices of a farewell: at most one of a failure, and then the one of the close. -/
def notices (farewell : Farewell) : List Notice :=
  (farewell.failure.map Notice.failed).toList ++ [.closed farewell.record]

/-- The farewell of a terminal signal; `connected` says whether the connection had opened.  A close
is clean for three codes, and otherwise announced by a failure; a failure is never clean. -/
def ofSignal (connected : Bool) : Signal → Option Farewell
  | .closed code reason remote =>
    if code.number ∈ [1000, 1006, -1] then some ⟨none, ⟨code, reason, remote, true⟩⟩
    else some ⟨some (.abnormalClose code reason), ⟨code, reason, remote, false⟩⟩
  | .failed failure =>
    some ⟨some failure,
      ⟨if connected then .abnormal else .neverConnected, failure.message, false, false⟩⟩
  | .opened | .message _ => none

end Farewell

/-! ## The notices of a list of signals -/

namespace Signal

/-- The signal of an opening. -/
def isOpening : Signal → Bool
  | opened => true
  | message _ | closed .. | failed _ => false

/-- The notice that passes on a message. -/
def messageNotice? : Signal → Option Notice
  | message payload => some (.message payload)
  | opened | closed .. | failed _ => none

/-- The signals before the first terminal one. -/
def beforeEnd (signals : List Signal) : List Signal :=
  signals.takeWhile (!·.isTerminal)

/-- The notices of the first opening and of the messages behind it. -/
def conversation (signals : List Signal) : List Notice :=
  match signals.dropWhile (!·.isOpening) with
  | [] => []
  | _ :: later => .opened :: later.filterMap messageNotice?

end Signal

/-- The farewell of the first terminal signal. -/
def Farewell.ofSignals (signals : List Signal) : Option Farewell :=
  (signals.find? Signal.isTerminal).bind
    (Farewell.ofSignal ((Signal.beforeEnd signals).any Signal.isOpening))

/-- All that a host is told. -/
def Notice.ofSignals (signals : List Signal) : List Notice :=
  Signal.conversation (Signal.beforeEnd signals)
    ++ ((Farewell.ofSignals signals).map Farewell.notices).getD []

/-- The notices that tell of the end. -/
def Notice.isFarewell : Notice → Bool
  | failed _ | closed _ => true
  | opened | message _ => false

theorem Farewell.isSome_failure_iff {connected : Bool} {signal : Signal} {farewell : Farewell}
    (ends : Farewell.ofSignal connected signal = some farewell) :
    farewell.failure.isSome ↔ farewell.record.clean = false := by
  cases signal with
  | opened => cases ends
  | message payload => cases ends
  | closed code reason remote =>
      simp only [Farewell.ofSignal] at ends
      split at ends <;> cases ends <;> simp
  | failed failure =>
      cases ends
      simp

theorem Farewell.filter_notices (farewell : Farewell) :
    farewell.notices.filter Notice.isFarewell = farewell.notices := by
  obtain ⟨failure, record⟩ := farewell
  cases failure <;> rfl

theorem Signal.filter_conversation (signals : List Signal) :
    (conversation signals).filter Notice.isFarewell = [] := by
  unfold conversation
  split
  · rfl
  · rename_i later _
    rw [List.filter_eq_nil_iff]
    intro notice member
    rcases List.mem_cons.mp member with rfl | member
    · exact Bool.false_ne_true
    · obtain ⟨signal, -, passed⟩ := List.mem_filterMap.mp member
      cases signal <;> cases passed
      exact Bool.false_ne_true

/-- The end is told by the farewell and by nothing else. -/
theorem Notice.filter_ofSignals (signals : List Signal) :
    (ofSignals signals).filter isFarewell =
      ((Farewell.ofSignals signals).map Farewell.notices).getD [] := by
  rw [ofSignals, List.filter_append, Signal.filter_conversation, List.nil_append]
  cases Farewell.ofSignals signals with
  | none => rfl
  | some farewell => exact farewell.filter_notices

/-- What a notice says of the connection: that it is open, or closed, or closed with a record. -/
def Notice.Announces : Notice → Lifecycle → Prop
  | .opened, lifecycle => lifecycle.state = .opened
  | .message _, lifecycle => lifecycle.state = .opened
  | .failed _, lifecycle => lifecycle.state = .closed
  | .closed record, lifecycle => lifecycle = ⟨.closed, some record⟩

/-- Whoever is told of the end sees a closed connection. -/
theorem Notice.Announces.state_of_isFarewell {notice : Notice} {lifecycle : Lifecycle}
    (announces : notice.Announces lifecycle) (ends : notice.isFarewell) :
    lifecycle.state = .closed := by
  cases notice with
  | opened => cases ends
  | message payload => cases ends
  | failed failure => exact announces
  | closed record => exact congrArg Lifecycle.state announces

theorem ReadyState.eq_closed_of_number_le {state : ReadyState}
    (le : ReadyState.closed.number ≤ state.number) : state = .closed := by
  revert le
  cases state <;> decide

/-! ## The shapes of a lifecycle -/

namespace Lifecycle

/-- A lifecycle between two signals: it has a record when it is closed, and it is never closing. -/
inductive Settled : Lifecycle → Prop where
  | connecting : Settled ⟨.connecting, none⟩
  | opened : Settled ⟨.opened, none⟩
  | closed (record : CloseRecord) : Settled ⟨.closed, some record⟩

namespace Settled

variable {lifecycle : Lifecycle}

theorem state_ne_closing (settled : lifecycle.Settled) : lifecycle.state ≠ .closing := by
  cases settled <;> exact ReadyState.noConfusion

theorem state_eq_closed_iff (settled : lifecycle.Settled) :
    lifecycle.state = .closed ↔ lifecycle.record.isSome := by
  cases settled <;> simp

end Settled

/-! ## One signal -/

/-- A closed connection drops every signal. -/
theorem accept_closed (record : CloseRecord) (signal : Signal) :
    accept ⟨.closed, some record⟩ signal = (⟨.closed, some record⟩, []) := by
  cases signal <;> rfl

/-- A move never leads back. -/
theorem number_le_advance (lifecycle : Lifecycle) (next : ReadyState) :
    lifecycle.state.number ≤ (lifecycle.advance next).state.number := by
  unfold Lifecycle.advance
  split
  · rename_i move
    exact Nat.le_of_lt (ReadyState.number_lt_of_canBecome move)
  · exact Nat.le_refl _

/-- No signal leads back to an earlier state. -/
theorem number_le_accept (lifecycle : Lifecycle) (signal : Signal) :
    lifecycle.state.number ≤ (lifecycle.accept signal).1.state.number := by
  have conclude (record : CloseRecord) (failure : Option Failure) :
      lifecycle.state.number ≤ (lifecycle.conclude record failure).1.state.number :=
    Nat.le_trans (number_le_advance lifecycle .closing) (number_le_advance _ .closed)
  cases signal <;> simp only [accept] <;> split
  · exact number_le_advance lifecycle .opened
  · exact Nat.le_refl _
  · exact Nat.le_refl _
  · exact Nat.le_refl _
  · exact conclude _ _
  · exact Nat.le_refl _
  · exact conclude _ _
  · exact Nat.le_refl _

/-- A closed connection stays closed. -/
theorem state_accept_of_closed {lifecycle : Lifecycle}
    (closed : lifecycle.state = .closed) (signal : Signal) :
    (lifecycle.accept signal).1.state = .closed := by
  have le := lifecycle.number_le_accept signal
  rw [closed] at le
  exact ReadyState.eq_closed_of_number_le le

/-- A record is kept whatever is signalled. -/
theorem record_accept {lifecycle : Lifecycle} {record : CloseRecord}
    (kept : lifecycle.record = some record) (signal : Signal) :
    (lifecycle.accept signal).1.record = some record := by
  have advance (other : Lifecycle) (next : ReadyState) :
      (other.advance next).record = other.record := by
    unfold Lifecycle.advance
    split <;> rfl
  have conclude (other : CloseRecord) (failure : Option Failure) :
      (lifecycle.conclude other failure).1.record = some record := by
    simp only [Lifecycle.conclude, finish, keep, advance, kept, Option.getD_some]
  cases signal <;> simp only [accept] <;> split
  · rw [advance, kept]
  · exact kept
  · exact kept
  · exact kept
  · exact conclude _ _
  · exact kept
  · exact conclude _ _
  · exact kept

theorem isClean_eq (code : CloseCode) :
    code.isClean = decide (code.number ∈ [1000, 1006, -1]) := by
  rw [Bool.eq_iff_iff]
  simp [CloseCode.isClean, or_assoc]

/-- A terminal signal ends a connection that is not over. -/
theorem accept_of_farewell {state : ReadyState} {signal : Signal} {farewell : Farewell}
    (active : state = .connecting ∨ state = .opened)
    (ends : Farewell.ofSignal (state == .opened) signal = some farewell) :
    accept ⟨state, none⟩ signal = (⟨.closed, some farewell.record⟩, farewell.notices) := by
  cases signal with
  | opened => cases ends
  | message payload => cases ends
  | closed code reason remote =>
      have taken : accept ⟨state, none⟩ (.closed code reason remote) =
          (⟨.closed, some (.ofReport code reason remote)⟩,
            Lifecycle.farewell (closeFailure? (.ofReport code reason remote))
              (.ofReport code reason remote)) := by
        rcases active with rfl | rfl <;> rfl
      rw [taken, closeFailure?, CloseRecord.ofReport, isClean_eq]
      by_cases clean : code.number ∈ [1000, 1006, -1]
      · rw [Farewell.ofSignal, if_pos clean] at ends
        cases ends
        simp only [clean, decide_true]
        rfl
      · rw [Farewell.ofSignal, if_neg clean] at ends
        cases ends
        simp only [clean, decide_false]
        rfl
  | failed failure =>
      cases ends
      rcases active with rfl | rfl <;> rfl

theorem ofSignal_isSome (connected : Bool) (signal : Signal) :
    (Farewell.ofSignal connected signal).isSome = signal.isTerminal := by
  cases signal with
  | closed code reason remote =>
      simp only [Farewell.ofSignal]
      split <;> rfl
  | opened => rfl
  | message payload => rfl
  | failed failure => rfl

/-- The notices of a signal: the first one tells how the connection is by then, and a second one
can only be that of the close. -/
theorem Settled.notices_of_accept {lifecycle : Lifecycle} (settled : lifecycle.Settled)
    {signal : Signal} {first : Notice} {rest : List Notice}
    (notices : (lifecycle.accept signal).2 = first :: rest) :
    first.Announces (lifecycle.accept signal).1 ∧
      (rest = [] ∨ ∃ record, rest = [.closed record] ∧
        (lifecycle.accept signal).1 = ⟨.closed, some record⟩) := by
  have ends (state : ReadyState) (active : state = .connecting ∨ state = .opened)
      (terminal : signal.isTerminal) (same : lifecycle = ⟨state, none⟩) :
      first.Announces (lifecycle.accept signal).1 ∧
        (rest = [] ∨ ∃ record, rest = [.closed record] ∧
          (lifecycle.accept signal).1 = ⟨.closed, some record⟩) := by
    subst same
    rw [← ofSignal_isSome (state == .opened)] at terminal
    obtain ⟨⟨failure, record⟩, announced⟩ := Option.isSome_iff_exists.mp terminal
    rw [accept_of_farewell active announced] at notices ⊢
    cases failure with
    | none =>
        cases notices
        exact ⟨rfl, .inl rfl⟩
    | some failure =>
        cases notices
        exact ⟨rfl, .inr ⟨record, rfl, rfl⟩⟩
  cases settled with
  | closed record =>
      rw [accept_closed] at notices
      cases notices
  | connecting =>
      cases signal with
      | opened =>
          cases notices
          exact ⟨rfl, .inl rfl⟩
      | message payload => cases notices
      | closed code reason remote => exact ends _ (.inl rfl) rfl rfl
      | failed failure => exact ends _ (.inl rfl) rfl rfl
  | opened =>
      cases signal with
      | opened => cases notices
      | message payload =>
          cases notices
          exact ⟨rfl, .inl rfl⟩
      | closed code reason remote => exact ends _ (.inr rfl) rfl rfl
      | failed failure => exact ends _ (.inr rfl) rfl rfl

/-! ## Many signals -/

theorem acceptAll_closed (record : CloseRecord) (signals : List Signal) :
    acceptAll ⟨.closed, some record⟩ signals = (⟨.closed, some record⟩, []) := by
  induction signals with
  | nil => rfl
  | cons signal signals ih => simp only [acceptAll, accept_closed, ih, List.nil_append]

theorem acceptAll_append (lifecycle : Lifecycle) (first second : List Signal) :
    lifecycle.acceptAll (first ++ second) =
      (((lifecycle.acceptAll first).1.acceptAll second).1,
        (lifecycle.acceptAll first).2 ++ ((lifecycle.acceptAll first).1.acceptAll second).2) := by
  induction first generalizing lifecycle with
  | nil => rfl
  | cons signal first ih => simp only [List.cons_append, acceptAll, ih, List.append_assoc]

/-- What becomes of a connection by its farewell, if there is one. -/
def conclusion (state : ReadyState) : Option Farewell → Lifecycle
  | none => ⟨state, none⟩
  | some farewell => ⟨.closed, some farewell.record⟩

/-- A connection that is not over meets its first terminal signal. -/
theorem acceptAll_cons_of_terminal {state : ReadyState} {signal : Signal}
    (active : state = .connecting ∨ state = .opened) (terminal : signal.isTerminal)
    (signals : List Signal) :
    acceptAll ⟨state, none⟩ (signal :: signals) =
      (conclusion state (Farewell.ofSignal (state == .opened) signal),
        ((Farewell.ofSignal (state == .opened) signal).map Farewell.notices).getD []) := by
  rw [← ofSignal_isSome (state == .opened)] at terminal
  obtain ⟨farewell, ends⟩ := Option.isSome_iff_exists.mp terminal
  simp only [acceptAll, accept_of_farewell active ends, acceptAll_closed, ends, conclusion,
    Option.map_some, Option.getD_some, List.append_nil]

/-- An open connection passes on every message before its end. -/
theorem acceptAll_opened (signals : List Signal) :
    acceptAll ⟨.opened, none⟩ signals =
      (conclusion .opened ((signals.find? Signal.isTerminal).bind (Farewell.ofSignal true)),
        (Signal.beforeEnd signals).filterMap Signal.messageNotice?
          ++ (((signals.find? Signal.isTerminal).bind (Farewell.ofSignal true)).map
            Farewell.notices).getD []) := by
  induction signals with
  | nil => rfl
  | cons signal signals ih =>
      cases signal with
      | opened => exact ih
      | message payload =>
          have step : acceptAll ⟨.opened, none⟩ (.message payload :: signals) =
              ((acceptAll ⟨.opened, none⟩ signals).1,
                .message payload :: (acceptAll ⟨.opened, none⟩ signals).2) := rfl
          rw [step, ih]
          rfl
      | closed code reason remote => exact acceptAll_cons_of_terminal (.inr rfl) rfl signals
      | failed failure => exact acceptAll_cons_of_terminal (.inr rfl) rfl signals

/-- The state of a connection that its signals have not ended. -/
def stateBeforeEnd (signals : List Signal) : ReadyState :=
  if (Signal.beforeEnd signals).any Signal.isOpening then .opened else .connecting

/-- **What a fresh connection does with its signals.**  It tells the notices of the signals, and it
is over, with the record of the farewell, as soon as there is a terminal one. -/
theorem acceptAll_fresh (signals : List Signal) :
    ({} : Lifecycle).acceptAll signals =
      (conclusion (stateBeforeEnd signals) (Farewell.ofSignals signals),
        Notice.ofSignals signals) := by
  induction signals with
  | nil => rfl
  | cons signal signals ih =>
      cases signal with
      | opened =>
          have step : ({} : Lifecycle).acceptAll (.opened :: signals) =
              ((acceptAll ⟨.opened, none⟩ signals).1,
                .opened :: (acceptAll ⟨.opened, none⟩ signals).2) := rfl
          rw [step, acceptAll_opened]
          rfl
      | message payload => exact ih
      | closed code reason remote => exact acceptAll_cons_of_terminal (.inl rfl) rfl signals
      | failed failure => exact acceptAll_cons_of_terminal (.inl rfl) rfl signals

-- A message before the opening is dropped, and so is everything behind the close.
example :
    ({} : Lifecycle).acceptAll
        [.message "early", .opened, .message "hello", .closed .noStatus "" true, .opened] =
      (⟨.closed, some ⟨.noStatus, "", true, false⟩⟩,
        [.opened, .message "hello", .failed (.abnormalClose .noStatus ""),
          .closed ⟨.noStatus, "", true, false⟩]) := rfl

theorem stateBeforeEnd_active (signals : List Signal) :
    stateBeforeEnd signals = .connecting ∨ stateBeforeEnd signals = .opened := by
  unfold stateBeforeEnd
  split
  · exact .inr rfl
  · exact .inl rfl

/-- Signals leave a fresh connection in one of the three shapes. -/
theorem settled_acceptAll (signals : List Signal) :
    (({} : Lifecycle).acceptAll signals).1.Settled := by
  rw [acceptAll_fresh]
  cases Farewell.ofSignals signals with
  | none =>
      rcases stateBeforeEnd_active signals with state | state <;> rw [state]
      · exact .connecting
      · exact .opened
  | some farewell => exact .closed farewell.record

end Lifecycle

end WebSocketClient
