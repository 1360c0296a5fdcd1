import Mathlib.Data.List.Count
import WebSocketClient.Lifecycle
import WebSocketClient.Proofs.Failure
import WebSocketClient.Request

/-!
# The form of a close code

A close code can be given by its name or by its number, and one number can have both forms.
`canonical` puts every code in a value into the form that `CloseCode.ofNumber` picks, and leaves
everything else as it is.  Two values with the same canonical form differ in nothing but the forms
of their codes.

The canonical form of a code is decided by its number, and so is everything that is asked of a code:
how it is classified, written, compared, hashed and sent.  Hence a value and its canonical form are
worded alike (`Failure.message_canonical`), values with the same canonical form are equal in the
sense in which hosts compare them (`Notice.canonical_eq_iff`), and the rules for signals and for
requests carry over to canonical forms (`Lifecycle.accept_canonical`,
`Verdict.ofRequest_canonical`).
-/

namespace WebSocketClient

set_option autoImplicit false

/-! ## Codes -/

namespace CloseCode

/-- A code in its canonical form. -/
def canonical (code : CloseCode) : CloseCode :=
  ofNumber code.number

section Canonical

variable (code : CloseCode)

@[simp] theorem number_canonical : code.canonical.number = code.number :=
  number_ofNumber code.number

@[simp] theorem canonical_canonical : code.canonical.canonical = code.canonical :=
  congrArg ofNumber code.number_canonical

@[simp] theorem isClean_canonical : code.canonical.isClean = code.isClean := by
  rw [isClean, number_canonical, ← isClean]

@[simp] theorem isValid_canonical : code.canonical.isValid = code.isValid := by
  unfold isValid
  rw [number_canonical]

@[simp] theorem isReserved_canonical : code.canonical.isReserved = code.isReserved := by
  unfold isReserved
  rw [number_canonical]

@[simp] theorem status_canonical : code.canonical.status = code.status := by
  unfold status
  rw [number_canonical]

@[simp] theorem text_canonical : code.canonical.text = code.text := by
  rw [text, number_canonical, ← text]

end Canonical

@[simp] theorem canonical_ofStatus (status : UInt16) :
    (ofStatus status).canonical = ofStatus status :=
  congrArg ofNumber (number_ofNumber _)

/-- Codes have the same canonical form exactly if they are equal. -/
theorem canonical_eq_iff {code other : CloseCode} :
    code.canonical = other.canonical ↔ (code == other) = true := by
  rw [beq_iff]
  constructor
  · intro same
    rw [← number_canonical code, same, number_canonical]
  · exact congrArg ofNumber

/-- A canonical form is a number only where there is no name. -/
theorem number_ne_of_canonical {code named : CloseCode} {number : Int32}
    (nameless : code.canonical = other number) (member : named ∈ CloseCode.named) :
    named.number ≠ number := by
  intro same
  have kept : code.number = number := by
    rw [← number_canonical code, nameless]
    rfl
  unfold canonical ofNumber at nameless
  cases found : CloseCode.named.find? fun named => named.number == code.number with
  | none =>
      have missed := List.find?_eq_none.mp found named member
      rw [same, kept] at missed
      exact missed (beq_self_eq_true number)
  | some name =>
      rw [found, Option.getD_some] at nameless
      have names := List.mem_of_find?_eq_some found
      rw [nameless] at names
      simp [CloseCode.named] at names

/-- Codes are equal or not, as numbers are. -/
theorem equivalence_beq : Equivalence fun code other : CloseCode => (code == other) = true where
  refl _ := BEq.rfl
  symm := BEq.symm
  trans := BEq.trans

/-- **A set of codes has one entry for each number.** -/
theorem count_number_set (codes : List CloseCode) (number : Int32) :
    ((set codes).toList.map CloseCode.number).count number =
      if number ∈ codes.map CloseCode.number then 1 else 0 := by
  have apart : ((set codes).toList.map CloseCode.number).Nodup := by
    refine List.pairwise_map.mpr ?_
    refine (Std.HashSet.distinct_toList (m := set codes)).imp ?_
    intro code other differ same
    rw [beq_iff.mpr same] at differ
    cases differ
  have present : number ∈ (set codes).toList.map CloseCode.number ↔
      number ∈ codes.map CloseCode.number := by
    have contains (others : List CloseCode) : number ∈ others.map CloseCode.number ↔
        others.contains (other number) = true := by
      rw [List.mem_map, List.contains_eq_any_beq, List.any_eq_true]
      refine exists_congr fun code => and_congr_right fun _ => ?_
      rw [beq_iff]
      exact eq_comm
    rw [contains, contains, Std.HashSet.contains_toList, set, Std.HashSet.contains_ofList]
  rw [apart.count]
  exact if_congr present rfl rfl

end CloseCode

/-! ## Records and failures -/

/-- A record with its code in canonical form. -/
def CloseRecord.canonical (record : CloseRecord) : CloseRecord :=
  { record with code := record.code.canonical }

@[simp] theorem CloseRecord.canonical_canonical (record : CloseRecord) :
    record.canonical.canonical = record.canonical := by
  simp [canonical]

theorem CloseRecord.ofReport_canonical (code : CloseCode) (reason : String) (remote : Bool) :
    ofReport code.canonical reason remote = (ofReport code reason remote).canonical := by
  simp [ofReport, canonical]

/-- Records have the same canonical form exactly if they are equal. -/
theorem CloseRecord.canonical_eq_iff {record other : CloseRecord} :
    record.canonical = other.canonical ↔ (record == other) = true := by
  obtain ⟨code, reason, remote, clean⟩ := record
  obtain ⟨code', reason', remote', clean'⟩ := other
  show _ ↔ (code == code' && (reason == reason' && (remote == remote' && clean == clean'))) = true
  simp only [canonical, mk.injEq, CloseCode.canonical_eq_iff, Bool.and_eq_true, beq_iff_eq]

namespace Failure

/-- A failure with its code in canonical form, if it has one. -/
def canonical : Failure → Failure
  | abnormalClose code reason => abnormalClose code.canonical reason
  | invalidUrl text => invalidUrl text
  | notOpen state => notOpen state
  | invalidCloseCode number => invalidCloseCode number
  | closeReasonTooLong length limit => closeReasonTooLong length limit
  | connectionClosed => connectionClosed
  | noRuntime => noRuntime
  | handshakeTimeout limit => handshakeTimeout limit
  | transport text => transport text
  | inputOutput text => inputOutput text

@[simp] theorem canonical_canonical (failure : Failure) :
    failure.canonical.canonical = failure.canonical := by
  cases failure <;> simp [canonical]

/-- A failure is worded like its canonical form. -/
@[simp] theorem message_canonical (failure : Failure) :
    failure.canonical.message = failure.message := by
  cases failure with
  | abnormalClose code reason =>
      exact message_eq_iff.mpr ⟨rfl, detail_abnormalClose.mpr ⟨code.number_canonical, rfl⟩⟩
  | _ => rfl

/-- Failures have the same canonical form exactly if they are equal. -/
theorem canonical_eq_iff {failure other : Failure} :
    failure.canonical = other.canonical ↔ (failure == other) = true := by
  constructor
  · intro same
    rw [beq_iff, ← message_eq_iff, ← message_canonical failure, same, message_canonical]
  · intro equal
    have kinds := kind_eq_of_beq equal
    cases failure <;> cases other <;> cases kinds
    case invalidUrl.invalidUrl.refl => exact congrArg invalidUrl (eq_of_beq equal)
    case notOpen.notOpen.refl => exact congrArg notOpen (eq_of_beq equal)
    case invalidCloseCode.invalidCloseCode.refl => exact congrArg invalidCloseCode (eq_of_beq equal)
    case closeReasonTooLong.closeReasonTooLong.refl =>
      obtain ⟨lengths, limits⟩ := Bool.and_eq_true_iff.mp equal
      exact congrArg₂ closeReasonTooLong (eq_of_beq lengths) (eq_of_beq limits)
    case connectionClosed.connectionClosed.refl => rfl
    case noRuntime.noRuntime.refl => rfl
    case handshakeTimeout.handshakeTimeout.refl =>
      exact congrArg handshakeTimeout (eq_of_beq equal)
    case transport.transport.refl => exact congrArg transport (eq_of_beq equal)
    case abnormalClose.abnormalClose.refl =>
      obtain ⟨codes, reasons⟩ := Bool.and_eq_true_iff.mp equal
      exact congrArg₂ abnormalClose (CloseCode.canonical_eq_iff.mpr codes) (eq_of_beq reasons)
    case inputOutput.inputOutput.refl => exact congrArg inputOutput (eq_of_beq equal)

end Failure

/-! ## Signals, notices and commands -/

/-- A signal with its code in canonical form, if it has one. -/
def Signal.canonical : Signal → Signal
  | opened => opened
  | message payload => message payload
  | closed code reason remote => closed code.canonical reason remote
  | failed failure => failed failure.canonical

@[simp] theorem Signal.canonical_canonical (signal : Signal) :
    signal.canonical.canonical = signal.canonical := by
  cases signal <;> simp [canonical]

namespace Notice

/-- A notice with its code in canonical form, if it has one. -/
def canonical : Notice → Notice
  | opened => opened
  | message payload => message payload
  | failed failure => failed failure.canonical
  | closed record => closed record.canonical

@[simp] theorem canonical_canonical (notice : Notice) :
    notice.canonical.canonical = notice.canonical := by
  cases notice <;> simp [canonical]

@[simp] theorem kind_canonical (notice : Notice) : notice.canonical.kind = notice.kind := by
  cases notice <;> rfl

@[simp] theorem isClosing_canonical (notice : Notice) :
    notice.canonical.isClosing = notice.isClosing := by
  rw [isClosing, kind_canonical, ← isClosing]

/-- Notices have the same canonical form exactly if they are equal. -/
theorem canonical_eq_iff {notice other : Notice} :
    notice.canonical = other.canonical ↔ (notice == other) = true := by
  cases notice <;> cases other <;> first
    | exact iff_of_true rfl rfl
    | exact iff_of_false (fun same => by cases same) fun same => by cases same
    | skip
  case message.message payload payload' =>
    show message payload = message payload' ↔ (payload == payload') = true
    rw [message.injEq, beq_iff_eq]
  case failed.failed failure failure' =>
    show failed failure.canonical = failed failure'.canonical ↔ (failure == failure') = true
    rw [failed.injEq, Failure.canonical_eq_iff]
  case closed.closed record record' =>
    show closed record.canonical = closed record'.canonical ↔ (record == record') = true
    rw [closed.injEq, CloseRecord.canonical_eq_iff]

end Notice

namespace Command

/-- A command with its code in canonical form, if it has one. -/
def canonical : Command → Command
  | send payload => send payload
  | close code reason => close code.canonical reason

@[simp] theorem canonical_canonical (command : Command) :
    command.canonical.canonical = command.canonical := by
  cases command <;> simp [canonical]

/-- Commands have the same canonical form exactly if they are equal. -/
theorem canonical_eq_iff {command other : Command} :
    command.canonical = other.canonical ↔ (command == other) = true := by
  cases command <;> cases other <;> first
    | exact iff_of_false (fun same => by cases same) fun same => by cases same
    | skip
  case send.send payload payload' =>
    show send payload = send payload' ↔ (payload == payload') = true
    rw [send.injEq, beq_iff_eq]
  case close.close code reason code' reason' =>
    show close code.canonical reason = close code'.canonical reason' ↔
      (code == code' && reason == reason') = true
    simp only [close.injEq, CloseCode.canonical_eq_iff, Bool.and_eq_true, beq_iff_eq]

end Command

/-! ## What becomes of signals and requests -/

namespace Lifecycle

/-- A lifecycle with the code of its record in canonical form. -/
def canonical (lifecycle : Lifecycle) : Lifecycle :=
  { lifecycle with record := lifecycle.record.map CloseRecord.canonical }

@[simp] theorem canonical_canonical (lifecycle : Lifecycle) :
    lifecycle.canonical.canonical = lifecycle.canonical := by
  simp [canonical, Function.comp_def]

theorem advance_canonical (lifecycle : Lifecycle) (next : ReadyState) :
    lifecycle.canonical.advance next = (lifecycle.advance next).canonical := by
  unfold advance
  split <;> rename_i moves
  · rw [if_pos (show lifecycle.state.canBecome next from moves)]
    rfl
  · rw [if_neg (show ¬lifecycle.state.canBecome next from moves)]

theorem keep_canonical (lifecycle : Lifecycle) (record : CloseRecord) :
    lifecycle.canonical.keep record.canonical = (lifecycle.keep record).canonical := by
  obtain ⟨state, kept⟩ := lifecycle
  cases kept <;> rfl

theorem closeFailure?_canonical (record : CloseRecord) :
    closeFailure? record.canonical = (closeFailure? record).map Failure.canonical := by
  obtain ⟨code, reason, remote, clean⟩ := record
  cases clean <;> rfl

theorem failureRecord_canonical (state : ReadyState) (failure : Failure) :
    failureRecord state failure.canonical = (failureRecord state failure).canonical := by
  unfold failureRecord
  rw [Failure.message_canonical]
  cases state <;> rfl

theorem conclude_canonical (lifecycle : Lifecycle) (record : CloseRecord)
    (failure : Option Failure) :
    lifecycle.canonical.conclude record.canonical (failure.map Failure.canonical) =
      ((lifecycle.conclude record failure).1.canonical,
        (lifecycle.conclude record failure).2.map Notice.canonical) := by
  have finished : lifecycle.canonical.finish record.canonical =
      (lifecycle.finish record).canonical := by
    simp only [finish, advance_canonical, keep_canonical]
  have recorded : (lifecycle.finish record).canonical.record.getD record.canonical =
      ((lifecycle.finish record).record.getD record).canonical := by
    cases kept : (lifecycle.finish record).record <;> simp [canonical, kept]
  simp only [conclude, finished, recorded]
  cases failure <;> rfl

/-- **A signal comes to the same in every form**, for the lifecycle and for the host. -/
theorem accept_canonical (lifecycle : Lifecycle) (signal : Signal) :
    lifecycle.canonical.accept signal.canonical =
      ((lifecycle.accept signal).1.canonical,
        (lifecycle.accept signal).2.map Notice.canonical) := by
  cases signal with
  | opened =>
      simp only [Signal.canonical, accept,
        show lifecycle.canonical.state = lifecycle.state from rfl]
      split
      · rw [advance_canonical]
        rfl
      · rfl
  | message payload =>
      simp only [Signal.canonical, accept,
        show lifecycle.canonical.state = lifecycle.state from rfl]
      split <;> rfl
  | closed code reason remote =>
      simp only [Signal.canonical, accept,
        show lifecycle.canonical.state = lifecycle.state from rfl,
        CloseRecord.ofReport_canonical, closeFailure?_canonical, conclude_canonical]
      split <;> rfl
  | failed failure =>
      have concluded := lifecycle.conclude_canonical (failureRecord lifecycle.state failure)
        (some failure)
      simp only [Signal.canonical, accept,
        show lifecycle.canonical.state = lifecycle.state from rfl,
        failureRecord_canonical]
      split
      · exact concluded
      · rfl

theorem acceptAll_canonical (lifecycle : Lifecycle) (signals : List Signal) :
    lifecycle.canonical.acceptAll (signals.map Signal.canonical) =
      ((lifecycle.acceptAll signals).1.canonical,
        (lifecycle.acceptAll signals).2.map Notice.canonical) := by
  induction signals generalizing lifecycle with
  | nil => rfl
  | cons signal signals ih =>
      simp only [List.map_cons, acceptAll, accept_canonical, ih, List.map_append]

end Lifecycle

namespace Verdict

/-- A verdict with its code in canonical form, if it has one. -/
def canonical : Verdict → Verdict
  | refused failure => refused failure.canonical
  | settled => settled
  | passed command => passed command.canonical

/-- **A request comes to the same in every form.** -/
theorem ofRequest_canonical (state : ReadyState) (command : Command) :
    ofRequest state command.canonical = (ofRequest state command).canonical := by
  cases command with
  | send payload =>
      simp only [Command.canonical, ofRequest, ofSend]
      split <;> rfl
  | close code reason =>
      simp only [Command.canonical, ofRequest, ofClose, CloseCode.isValid_canonical,
        CloseCode.number_canonical]
      split
      · rfl
      · split
        · rfl
        · split <;> rfl

end Verdict

end WebSocketClient
