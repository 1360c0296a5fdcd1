import WebSocketClient.Request

/-!
# Requests that are passed on

A request reaches a transport unchanged or not at all (`Verdict.eq_of_passed`), and a close that
reaches it is a proper one: its code may be sent and its reason fits into a frame
(`Verdict.proper_of_passed`).  The number that stands for an attempt that never connected belongs to
no proper close and to no status on the wire, so a code with this number is never one that the two
sides of a connection told each other.
-/

namespace WebSocketClient

set_option autoImplicit false

/-! ## Numbers of codes -/

namespace CloseCode

/-- No code that may be sent has the number of an attempt that never connected. -/
theorem number_ne_of_isValid {code : CloseCode} (valid : code.isValid) : code.number ≠ -1 := by
  intro same
  rw [isValid, same] at valid
  exact absurd valid (by decide)

/-- A status that is read keeps its number. -/
theorem toInt_number_ofStatus (status : UInt16) :
    (ofStatus status).number.toInt = status.toNat := by
  rw [ofStatus, number_ofNumber]
  exact Int32.toInt_ofNat_of_lt (Nat.lt_trans status.toNat_lt (by decide))

/-- No status has the number of an attempt that never connected. -/
theorem number_ofStatus_ne (status : UInt16) : (ofStatus status).number ≠ -1 := by
  intro same
  have read := toInt_number_ofStatus status
  rw [same, show (-1 : Int32).toInt = -1 from rfl] at read
  omega

end CloseCode

/-! ## Proper commands -/

/-- A message, or a close with a code that may be sent and a reason that fits. -/
def Command.Proper : Command → Prop
  | .send _ => True
  | .close code reason => code.isValid ∧ reason.utf8ByteSize ≤ Verdict.maxReason

theorem Command.normalClose_proper : Command.normalClose.Proper :=
  ⟨rfl, Nat.zero_le _⟩

namespace Verdict

variable {state : ReadyState} {asked command : Command}

/-- What a request passes on is what was asked for. -/
theorem eq_of_passed (verdict : ofRequest state asked = .passed command) : asked = command := by
  cases asked with
  | send payload =>
      simp only [ofRequest, ofSend] at verdict
      split at verdict <;> cases verdict
      rfl
  | close code reason =>
      simp only [ofRequest, ofClose] at verdict
      split at verdict
      · cases verdict
      · split at verdict
        · cases verdict
        · split at verdict <;> cases verdict
          rfl

/-- What a request passes on is proper. -/
theorem proper_of_passed (verdict : ofRequest state asked = .passed command) :
    command.Proper := by
  obtain rfl := eq_of_passed verdict
  cases asked with
  | send payload => exact trivial
  | close code reason =>
      simp only [ofRequest, ofClose, Bool.not_eq_true'] at verdict
      split at verdict
      · cases verdict
      · rename_i valid
        split at verdict
        · cases verdict
        · rename_i fits
          exact ⟨eq_true_of_ne_false valid, Nat.not_lt.mp fits⟩

/-- While the connection is open, whatever is proper is passed on. -/
theorem passed_of_opened (proper : command.Proper) :
    ofRequest .opened command = .passed command := by
  cases command with
  | send payload => rfl
  | close code reason =>
      obtain ⟨valid, fits⟩ := proper
      simp only [ofRequest, ofClose, valid, Bool.not_true, Bool.false_eq_true, if_false,
        if_neg (Nat.not_lt.mpr fits)]
      rfl

/-- A closed connection passes nothing on. -/
theorem ofRequest_closed_ne (asked command : Command) :
    ofRequest .closed asked ≠ .passed command := by
  intro passed
  obtain rfl := eq_of_passed passed
  cases asked with
  | send payload => cases passed
  | close code reason =>
      simp only [ofRequest, ofClose] at passed
      split at passed
      · cases passed
      · split at passed <;> cases passed

end Verdict

end WebSocketClient
