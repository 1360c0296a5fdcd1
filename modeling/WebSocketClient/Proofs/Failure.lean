import WebSocketClient.Proofs.Duration
import WebSocketClient.Proofs.Rehearsal.Runs

/-!
# Failures can be told from their wording

The wording of a failure has a heading and a detail.  The heading belongs to the kind of the
failure, and no heading is the beginning of another one, so a reader knows the kind before the
detail begins (`Failure.Kind.eq_of_prefix`).  The detail writes down all the data of the failure, in
a form that can be read back.  Two failures have the same kind and the same detail exactly if they
are equal, where close codes are compared by number, as everywhere (`Failure.beq_iff`).

When a transport fails, the wording of the failure becomes the reason of the close.  So a host that
listens to nothing but closes can tell failures apart (`Rehearsal.reasons_of_run`).
-/

namespace WebSocketClient

set_option autoImplicit false

open Text

theorem ReadyState.text_inj {state other : ReadyState} :
    state.text = other.text ↔ state = other := by
  cases state <;> cases other <;> decide

/-- The number of a code can be read from its text. -/
theorem CloseCode.text_inj {code other : CloseCode} :
    code.text = other.text ↔ code.number = other.number := by
  rw [text, text, toString_int_inj, Int32.toInt_inj]

namespace Failure

/-! ## Headings and details -/

/-- The kinds of failure. -/
inductive Kind where
  | invalidUrl
  | notOpen
  | invalidCloseCode
  | closeReasonTooLong
  | connectionClosed
  | noRuntime
  | handshakeTimeout
  | transport
  | abnormalClose
  | inputOutput
deriving DecidableEq

/-- What the wording of a kind of failure begins with. -/
def Kind.heading : Kind → String
  | invalidUrl => "Invalid URL: "
  | notOpen => "Connection is not open (state: "
  | invalidCloseCode => "Invalid close code: "
  | closeReasonTooLong => "Close reason too long: "
  | connectionClosed => "Connection closed"
  | noRuntime => "No tokio runtime available"
  | handshakeTimeout => "Handshake timed out after "
  | transport => "Transport error: "
  | abnormalClose => "Abnormal close: "
  | inputOutput => "I/O error: "

/-- The kind of a failure. -/
def kind : Failure → Kind
  | .invalidUrl _ => .invalidUrl
  | .notOpen _ => .notOpen
  | .invalidCloseCode _ => .invalidCloseCode
  | .closeReasonTooLong .. => .closeReasonTooLong
  | .connectionClosed => .connectionClosed
  | .noRuntime => .noRuntime
  | .handshakeTimeout _ => .handshakeTimeout
  | .transport _ => .transport
  | .abnormalClose .. => .abnormalClose
  | .inputOutput _ => .inputOutput

/-- What the wording says of the data of a failure. -/
def detail : Failure → String
  | .invalidUrl text | .transport text | .inputOutput text => text
  | .notOpen state => state.text ++ ")"
  | .invalidCloseCode number => toString number.toInt
  | .closeReasonTooLong length limit =>
    toString length ++ (" bytes (max: " ++ (toString limit ++ ")"))
  | .connectionClosed | .noRuntime => ""
  | .handshakeTimeout limit => limit.text
  | .abnormalClose code reason => code.text ++ (" " ++ quoted reason)

theorem message_eq (failure : Failure) :
    failure.message = failure.kind.heading ++ failure.detail := by
  cases failure with
  | invalidUrl text => rfl
  | notOpen state =>
      show "Connection is not open (state: " ++ state.text ++ ")" = _ ++ (state.text ++ ")")
      exact String.append_assoc
  | invalidCloseCode number => rfl
  | closeReasonTooLong length limit =>
      show "Close reason too long: " ++ toString length ++ " bytes (max: " ++ toString limit
        ++ ")" = _ ++ (toString length ++ (" bytes (max: " ++ (toString limit ++ ")")))
      rw [String.append_assoc, String.append_assoc, String.append_assoc]
      rfl
  | connectionClosed =>
      show "Connection closed" = _ ++ ""
      exact String.append_empty.symm
  | noRuntime =>
      show "No tokio runtime available" = _ ++ ""
      exact String.append_empty.symm
  | handshakeTimeout limit => rfl
  | transport text => rfl
  | abnormalClose code reason =>
      show "Abnormal close: " ++ code.text ++ " " ++ quoted reason =
        _ ++ (code.text ++ (" " ++ quoted reason))
      rw [String.append_assoc, String.append_assoc]
      rfl
  | inputOutput text => rfl

/-- No heading is the beginning of another one. -/
theorem Kind.eq_of_prefix {kind other : Kind}
    (begins : kind.heading.toList <+: other.heading.toList) : kind = other := by
  revert begins
  cases kind <;> cases other <;> simp [heading]

/-- **The kind and the detail can be read from the wording.** -/
theorem message_eq_iff {failure other : Failure} :
    failure.message = other.message ↔
      failure.kind = other.kind ∧ failure.detail = other.detail := by
  rw [message_eq, message_eq]
  constructor
  · intro same
    have lists := congrArg String.toList same
    rw [String.toList_append, String.toList_append] at lists
    have kinds : failure.kind = other.kind := by
      have begins := List.prefix_append failure.kind.heading.toList failure.detail.toList
      have beginsOther := List.prefix_append other.kind.heading.toList other.detail.toList
      rw [lists] at begins
      rcases List.prefix_or_prefix_of_prefix begins beginsOther with first | second
      · exact Kind.eq_of_prefix first
      · exact (Kind.eq_of_prefix second).symm
    rw [kinds] at same
    exact ⟨kinds, (String.append_right_inj _).mp same⟩
  · rintro ⟨kinds, details⟩
    rw [kinds, details]

/-! ## Details and data -/

theorem detail_closeReasonTooLong {length limit lengthOther limitOther : Nat} :
    (closeReasonTooLong length limit).detail = (closeReasonTooLong lengthOther limitOther).detail ↔
      length = lengthOther ∧ limit = limitOther := by
  constructor
  · intro same
    have lists := congrArg String.toList same
    simp only [detail, String.toList_append] at lists
    have stops (rest : List Char) : Stops Char.isDigit (" bytes (max: ".toList ++ rest) :=
      .cons rfl _
    obtain ⟨lengths, rests⟩ := eq_of_append_eq isDigit_of_mem_toString isDigit_of_mem_toString
      (stops _) (stops _) lists
    have limits := List.append_cancel_right (List.append_cancel_left rests)
    exact ⟨toString_nat_inj.mp (String.toList_inj.mp lengths),
      toString_nat_inj.mp (String.toList_inj.mp limits)⟩
  · rintro ⟨rfl, rfl⟩
    rfl

theorem detail_abnormalClose {code codeOther : CloseCode} {reason reasonOther : String} :
    (abnormalClose code reason).detail = (abnormalClose codeOther reasonOther).detail ↔
      code.number = codeOther.number ∧ reason = reasonOther := by
  constructor
  · intro same
    have lists := congrArg String.toList same
    simp only [detail, String.toList_append] at lists
    have stops (rest : List Char) : Stops (· != ' ') (" ".toList ++ rest) := .cons rfl _
    obtain ⟨codes, rests⟩ := eq_of_append_eq ne_blank_of_mem_toString ne_blank_of_mem_toString
      (stops _) (stops _) lists
    have reasons := List.append_cancel_left rests
    exact ⟨CloseCode.text_inj.mp (String.toList_inj.mp codes),
      quoted_inj.mp (String.toList_inj.mp reasons)⟩
  · rintro ⟨codes, rfl⟩
    rw [detail, detail, CloseCode.text_inj.mpr codes]

/-- Equal failures are of one kind. -/
theorem kind_eq_of_beq {failure other : Failure} (same : (failure == other) = true) :
    failure.kind = other.kind := by
  cases failure <;> cases other <;> first | rfl | cases same

/-- **Failures are equal if they have the same kind and the same detail.** -/
theorem beq_iff {failure other : Failure} :
    (failure == other) = true ↔ failure.kind = other.kind ∧ failure.detail = other.detail := by
  by_cases kinds : failure.kind = other.kind
  · rw [and_iff_right kinds]
    cases failure <;> cases other <;> cases kinds
    case invalidUrl.invalidUrl.refl text textOther =>
      show (text == textOther) = true ↔ text = textOther
      exact beq_iff_eq
    case notOpen.notOpen.refl state stateOther =>
      show (state == stateOther) = true ↔ state.text ++ ")" = stateOther.text ++ ")"
      rw [beq_iff_eq, String.append_left_inj, ReadyState.text_inj]
    case invalidCloseCode.invalidCloseCode.refl number numberOther =>
      show (number == numberOther) = true ↔ toString number.toInt = toString numberOther.toInt
      rw [beq_iff_eq, toString_int_inj, Int32.toInt_inj]
    case closeReasonTooLong.closeReasonTooLong.refl length limit lengthOther limitOther =>
      show (length == lengthOther && limit == limitOther) = true ↔ _
      rw [detail_closeReasonTooLong, Bool.and_eq_true, beq_iff_eq, beq_iff_eq]
    case connectionClosed.connectionClosed.refl => exact iff_of_true rfl rfl
    case noRuntime.noRuntime.refl => exact iff_of_true rfl rfl
    case handshakeTimeout.handshakeTimeout.refl limit limitOther =>
      show (limit == limitOther) = true ↔ limit.text = limitOther.text
      rw [beq_iff_eq, Duration.text_inj]
    case transport.transport.refl text textOther =>
      show (text == textOther) = true ↔ text = textOther
      exact beq_iff_eq
    case abnormalClose.abnormalClose.refl code reason codeOther reasonOther =>
      show (code == codeOther && reason == reasonOther) = true ↔ _
      rw [detail_abnormalClose, Bool.and_eq_true, CloseCode.beq_iff, beq_iff_eq]
    case inputOutput.inputOutput.refl text textOther =>
      show (text == textOther) = true ↔ text = textOther
      exact beq_iff_eq
  · exact iff_of_false (fun same => kinds (kind_eq_of_beq same)) fun same => kinds same.1

end Failure

/-! ## The reason of a close -/

/-- The failure that a signal reports. -/
def Signal.failure? : Signal → Option Failure
  | failed failure => some failure
  | opened | message _ | closed .. => none

/-- The reason of a close, as a host is told of it. -/
def Notice.reason? : Notice → Option String
  | closed record => some record.reason
  | opened | message _ | failed _ => none

/-- The reason of a close is that of the farewell. -/
theorem Notice.filterMap_reason_ofSignals (signals : List Signal) :
    (ofSignals signals).filterMap reason? =
      ((Farewell.ofSignals signals).map (·.record.reason)).toList := by
  have conversation : (Signal.conversation (Signal.beforeEnd signals)).filterMap reason? = [] := by
    refine List.filterMap_eq_nil_iff.mpr ?_
    intro notice member
    have kept := List.filter_eq_nil_iff.mp (Signal.filter_conversation _) notice member
    cases notice with
    | closed record => exact absurd rfl kept
    | opened => rfl
    | message payload => rfl
    | failed failure => rfl
  rw [ofSignals, List.filterMap_append, conversation, List.nil_append]
  cases Farewell.ofSignals signals with
  | none => rfl
  | some farewell =>
      obtain ⟨failure, record⟩ := farewell
      cases failure <;> rfl

namespace Rehearsal

/-- The failure that ended a connection, if it was one. -/
def cause? (scene : Scene) (steps : List Step) : Option Failure :=
  ((ending scene steps).reported.find? Signal.isTerminal).bind Signal.failure?

/-- The reasons of the closes that a host is told of. -/
def reasons (scene : Scene) (steps : List Step) : List String :=
  ((run scene steps).flatMap Frame.notices).filterMap Notice.reason?

variable {scene : Scene} {steps : List Step}

/-- Who listens to closes learns the reason of the farewell. -/
theorem reasons_eq (listens : scene.listener.calls .closed) : reasons scene steps =
    ((Farewell.ofSignals (ending scene steps).reported).map (·.record.reason)).toList := by
  rw [reasons, notices_run, told_ending, List.filterMap_filter,
    ← Notice.filterMap_reason_ofSignals]
  congr 1
  funext notice
  cases notice with
  | closed record => exact if_pos listens
  | opened => exact ite_self none
  | message payload => exact ite_self none
  | failed failure => exact ite_self none

/-- The wording of a failure becomes the reason of the close. -/
theorem reason_of_cause {failure : Failure} (cause : cause? scene steps = some failure) :
    (Farewell.ofSignals (ending scene steps).reported).map (·.record.reason) =
      some failure.message := by
  obtain ⟨signal, first, reports⟩ := Option.bind_eq_some_iff.mp cause
  rw [Farewell.ofSignals, first]
  cases signal <;> cases reports
  rfl

/-- **Failures can be told apart by their wording**, and by the reason of a close.  Whatever the
scripts do and however their calls nest, when a transport fails then the host is told of one close,
whose reason is the wording of the failure, and the record is kept with this reason.  Hence two
hosts that listen to closes learn the same reason exactly if their transports failed equally. -/
theorem reasons_of_run (failure another : Failure) :
    (failure.message = another.message ↔ (failure == another) = true) ∧
      ∀ scene steps other others, scene.listener.calls .closed → other.listener.calls .closed →
        cause? scene steps = some failure → cause? other others = some another →
        reasons scene steps = [failure.message] ∧
          (ending scene steps).lifecycle.record.map CloseRecord.reason = some failure.message ∧
          (reasons scene steps = reasons other others ↔ (failure == another) = true) := by
  have wording : failure.message = another.message ↔ (failure == another) = true := by
    rw [Failure.message_eq_iff, Failure.beq_iff]
  refine ⟨wording, ?_⟩
  intro scene steps other others listens listensOther cause causeOther
  have told : reasons scene steps = [failure.message] := by
    rw [reasons_eq listens, reason_of_cause cause, Option.toList_some]
  have toldOther : reasons other others = [another.message] := by
    rw [reasons_eq listensOther, reason_of_cause causeOther, Option.toList_some]
  refine ⟨told, ?_, ?_⟩
  · rw [record_ending, Option.map_map]
    exact reason_of_cause cause
  · rw [told, toldOther, List.singleton_inj, wording]

/-- Two timeouts that differ by a nanosecond, and a host that listens to closes only. -/
theorem reasons_of_timeouts :
    let scene : Scene := { url := "ws://h/", listener := .callbacks { closed := true } }
    let fails (nanoseconds : Fin 1000000000) : List Step :=
      [.report (.failed (.handshakeTimeout ⟨1, nanoseconds⟩))]
    reasons scene (fails 500000000) = ["Handshake timed out after 1.5s"] ∧
      reasons scene (fails 500000000) ≠ reasons scene (fails 500000001) := by
  intro scene fails
  have cause (nanoseconds : Fin 1000000000) :
      cause? scene (fails nanoseconds) = some (.handshakeTimeout ⟨1, nanoseconds⟩) := by
    have connects : (Endpoint.parse scene.url).isOk := by decide +kernel
    unfold cause? ending connect
    cases parsed : Endpoint.parse scene.url with
    | error failure =>
        rw [parsed] at connects
        cases connects
    | ok endpoint => rfl
  obtain ⟨-, runs⟩ := reasons_of_run (.handshakeTimeout ⟨1, 500000000⟩)
    (.handshakeTimeout ⟨1, 500000001⟩)
  obtain ⟨told, -, same⟩ := runs scene (fails 500000000) scene (fails 500000001) rfl rfl
    (cause 500000000) (cause 500000001)
  refine ⟨?_, ?_⟩
  · rw [told]
    decide +kernel
  · intro equal
    exact absurd (same.mp equal) (by decide)

end Rehearsal

end WebSocketClient
