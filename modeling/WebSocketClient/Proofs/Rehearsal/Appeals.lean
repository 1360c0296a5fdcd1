import WebSocketClient.Proofs.Rehearsal.Moment

/-!
# The requests of a rehearsal

A host makes requests at any time: as steps of a script, and from inside the calls that other steps
make, to any depth.  An appeal is one such request, together with what could be seen when it was
made and what it came to.  This module says what should become of an appeal: what the transport is
asked (`Appeal.asked?`) and what the host is answered (`Appeal.answer`).
-/

namespace WebSocketClient

set_option autoImplicit false

/-! ## Appeals -/

/-- The command that an entry of the log calls a transport for, with what could be seen. -/
def Entry.command? : Entry → Option (Command × Sight)
  | call (.send payload) sight => some (.send payload, sight)
  | call (.close code reason) sight => some (.close code reason, sight)
  | call (.connect ..) _ | call (.notice _) _ | step .. => none

/-- A number that may be put into a close frame. -/
def CloseCode.Sendable (code : CloseCode) : Prop :=
  let number := code.number.toInt
  (1000 ≤ number ∧ number ≤ 1003) ∨ (1007 ≤ number ∧ number ≤ 1014) ∨
    (3000 ≤ number ∧ number ≤ 4999)

theorem CloseCode.isValid_iff {code : CloseCode} : code.isValid = true ↔ code.Sendable := by
  simp [isValid, Sendable, or_assoc]

instance (code : CloseCode) : Decidable code.Sendable :=
  decidable_of_iff _ CloseCode.isValid_iff

/-- When a transport may be asked.  It sends a message only while the connection is open, and it
closes a connection that is not closed, with a code that may be sent and a reason of at most 123
bytes. -/
def Command.MayBeAsked : Command → ReadyState → Prop
  | .send _, state => state = .opened
  | .close code reason, state => state ≠ .closed ∧ code.Sendable ∧ reason.utf8ByteSize ≤ 123

instance : (command : Command) → (state : ReadyState) → Decidable (command.MayBeAsked state)
  | .send _, state => inferInstanceAs (Decidable (state = .opened))
  | .close code reason, state =>
    inferInstanceAs (Decidable (state ≠ .closed ∧ code.Sendable ∧ reason.utf8ByteSize ≤ 123))

theorem Command.MayBeAsked.state_ne_closed {command : Command} {state : ReadyState}
    (may : command.MayBeAsked state) : state ≠ .closed := by
  cases command with
  | send payload =>
      rw [show state = .opened from may]
      exact ReadyState.noConfusion
  | close code reason => exact may.1

/-- A request of the host. -/
structure Appeal where
  command : Command
  /-- What could be seen when it was made. -/
  sight : Sight
  /-- How the transport took commands then. -/
  service : Service
  /-- What it came to. -/
  outcome : Outcome

namespace Appeal

/-- What the transport is asked, with what can be seen then. -/
def asked? (appeal : Appeal) : Option (Command × Sight) :=
  if appeal.command.MayBeAsked appeal.sight.state then some (appeal.command, appeal.sight)
  else none

/-- The call of the transport, which a transport that has shut down does not take. -/
def called? (appeal : Appeal) : Option (Command × Sight) :=
  match appeal.service with
  | .present _ => appeal.asked?
  | .gone => none

/-- What the host is answered.  A close is refused for its code before it is refused for its reason,
whatever the state. -/
def answer (appeal : Appeal) : Except Failure Unit :=
  match appeal.command with
  | .send _ =>
    if appeal.sight.state = .opened then appeal.service.answer
    else .error (.notOpen appeal.sight.state)
  | .close code reason =>
    if ¬code.Sendable then .error (.invalidCloseCode code.number)
    else if 123 < reason.utf8ByteSize then
      .error (.closeReasonTooLong reason.utf8ByteSize 123)
    else if appeal.sight.state = .closed then .ok ()
    else appeal.service.answer

/-- What becomes of an appeal.  It is passed on if the transport may be asked, and it is refused or
settled if not. -/
theorem verdict (appeal : Appeal) :
    let verdict := Verdict.ofRequest appeal.sight.state appeal.command
    (verdict = .passed appeal.command ∧ appeal.asked? = some (appeal.command, appeal.sight) ∧
        appeal.answer = appeal.service.answer) ∨
      appeal.asked? = none ∧
        ((∃ failure, verdict = .refused failure ∧ appeal.answer = .error failure) ∨
          verdict = .settled ∧ appeal.answer = .ok ()) := by
  obtain ⟨command, ⟨state, record, handle⟩, service, outcome⟩ := appeal
  cases command with
  | send payload =>
      by_cases opened : state = .opened
      · subst opened
        exact .inl ⟨rfl, rfl, rfl⟩
      · refine .inr ⟨if_neg opened, .inl ⟨.notOpen state, ?_, if_neg opened⟩⟩
        simp [Verdict.ofRequest, Verdict.ofSend, ReadyState.canSend, opened]
  | close code reason =>
      simp only [Verdict.ofRequest, Verdict.ofClose, asked?, Command.MayBeAsked, answer,
        Verdict.maxReason, ReadyState.isActive]
      by_cases sendable : code.Sendable
      · have valid := CloseCode.isValid_iff.mpr sendable
        by_cases long : 123 < reason.utf8ByteSize
        · refine .inr ⟨by simp [Nat.not_le.mpr long],
            .inl ⟨.closeReasonTooLong reason.utf8ByteSize 123, ?_, ?_⟩⟩
          · simp [valid, long]
          · simp [sendable, long]
        · by_cases closed : state = .closed
          · exact .inr ⟨by simp [closed], .inr ⟨by simp [valid, long, closed],
              by simp [sendable, long, closed]⟩⟩
          · exact .inl ⟨by simp [valid, long, closed],
              by simp [sendable, Nat.not_lt.mp long, closed],
              by simp [sendable, long, closed]⟩
      · have invalid := eq_false_of_ne_true (mt CloseCode.isValid_iff.mp sendable)
        refine .inr ⟨by simp [sendable], .inl ⟨.invalidCloseCode code.number, ?_, ?_⟩⟩
        · simp [invalid]
        · simp [sendable]

-- A closed connection still refuses a close with a code that may not be sent.
example (service : Service) (outcome : Outcome) :
    answer ⟨.close .noStatus "", ⟨.closed, none, true⟩, service, outcome⟩ =
      .error (.invalidCloseCode 1005) := rfl

variable {appeal : Appeal}

theorem mayBeAsked {command : Command} {sight : Sight}
    (asked : appeal.asked? = some (command, sight)) : command.MayBeAsked sight.state := by
  unfold asked? at asked
  split at asked
  · rename_i may
    cases asked
    exact may
  · cases asked

/-- A transport is called only if it is asked. -/
theorem asked?_of_called? {ask : Command × Sight} (called : appeal.called? = some ask) :
    appeal.asked? = some ask := by
  unfold called? at called
  split at called
  · exact called
  · cases called

/-- A close without further words is refused by the transport or not at all. -/
theorem answer_normalClose (normal : appeal.command = .normalClose) :
    appeal.answer = if appeal.sight.state = .closed then .ok () else appeal.service.answer := by
  have sendable : CloseCode.normal.Sendable := by decide
  have short : ¬123 < "".utf8ByteSize := by decide
  simp only [answer, normal, Command.normalClose, sendable, short, not_true, if_false]

/-- What is shown of an appeal by the one who made it. -/
def shown (appeal : Appeal) : Command × Outcome :=
  (appeal.command, appeal.outcome)

end Appeal

/-! ## Requests that are shown -/

/-- A request with what it came to, unless there was no connection to ask. -/
def Outcome.toRequest (command : Command) : Outcome → List (Command × Outcome)
  | noConnection => []
  | outcome => [(command, outcome)]

theorem Outcome.toRequest_ofResult (command : Command) (result : Except Failure Unit) :
    (ofResult result).toRequest command = [(command, ofResult result)] := by
  cases result <;> rfl

mutual

/-- The requests that a step shows with its outcome. -/
def Step.requests : Step → Outcome → List (Command × Outcome)
  | .send payload, outcome => outcome.toRequest (.send payload)
  | .close, outcome => outcome.toRequest .normalClose
  | .closeWith code reason, outcome => outcome.toRequest (.close code reason)
  | .thread steps, .several outcomes => Step.requestsAll steps outcomes
  | _, _ => []

/-- The requests that several steps show with their outcomes. -/
def Step.requestsAll : List Step → List Outcome → List (Command × Outcome)
  | step :: steps, outcome :: outcomes => step.requests outcome ++ Step.requestsAll steps outcomes
  | _, _ => []

end

/-- The requests that an entry of the log shows. -/
def Entry.requests : Entry → List (Command × Outcome)
  | .call .. => []
  | .step _ taken outcome => taken.requests outcome

end WebSocketClient
