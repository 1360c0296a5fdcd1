import Std.Data.HashSet

/-!
# Close codes

A close code is a signed 32-bit number.  The numbers of the protocol and the two numbers that
only ever stand for a local outcome (the close that carried no status, the attempt that never
connected) have names; every other number is kept as it is.

A code may be written in two forms, by name or by number, and the form never matters: codes are
compared and hashed by number, and the three classifications look at nothing else.  Only
`describe` shows the form.  `ofNumber` picks the canonical form of a number, the named one where
there is a name.
-/

namespace WebSocketClient

set_option autoImplicit false

/-- The code of a close, by name where the number has one. -/
inductive CloseCode where
  | neverConnected
  | normal
  | goingAway
  | protocolError
  | unsupportedData
  | noStatus
  | abnormal
  | invalidPayload
  | policyViolation
  | messageTooBig
  | mandatoryExtension
  | internalError
  | tlsHandshake
  | other (number : Int32)
deriving DecidableEq, Repr

namespace CloseCode

instance : Inhabited CloseCode := ⟨normal⟩

/-! ## Numbers -/

/-- The number of a code. -/
def number : CloseCode → Int32
  | neverConnected => -1
  | normal => 1000
  | goingAway => 1001
  | protocolError => 1002
  | unsupportedData => 1003
  | noStatus => 1005
  | abnormal => 1006
  | invalidPayload => 1007
  | policyViolation => 1008
  | messageTooBig => 1009
  | mandatoryExtension => 1010
  | internalError => 1011
  | tlsHandshake => 1015
  | other number => number

/-- The codes that have a name. -/
def named : List CloseCode :=
  [neverConnected, normal, goingAway, protocolError, unsupportedData, noStatus, abnormal,
    invalidPayload, policyViolation, messageTooBig, mandatoryExtension, internalError,
    tlsHandshake]

/-- The canonical code of a number: the named one if there is a name. -/
def ofNumber (number : Int32) : CloseCode :=
  (named.find? fun code => code.number == number).getD (other number)

/-- The canonical form keeps the number. -/
theorem number_ofNumber (number : Int32) : (ofNumber number).number = number := by
  unfold ofNumber
  cases h : named.find? fun code => code.number == number with
  | none => rfl
  | some code => simpa using List.find?_some h

/-! ## Equality and hashing -/

instance : BEq CloseCode := ⟨fun a b => a.number == b.number⟩

instance : Hashable CloseCode := ⟨fun code => code.number.toUInt32.toUInt64⟩

theorem beq_iff {a b : CloseCode} : (a == b) = true ↔ a.number = b.number := by
  show (a.number == b.number) = true ↔ _
  simp

instance : EquivBEq CloseCode where
  rfl := beq_iff.2 rfl
  symm h := beq_iff.2 (beq_iff.1 h).symm
  trans h k := beq_iff.2 ((beq_iff.1 h).trans (beq_iff.1 k))

instance : LawfulHashable CloseCode where
  hash_eq a b h := by
    show a.number.toUInt32.toUInt64 = b.number.toUInt32.toUInt64
    rw [beq_iff.1 h]

/-- The set of the given codes. -/
def set (codes : List CloseCode) : Std.HashSet CloseCode :=
  Std.HashSet.ofList codes

/-- The numbers of a set of codes, ascending. -/
def numbers (codes : Std.HashSet CloseCode) : List Int32 :=
  (codes.toList.map number).mergeSort fun a b => decide (a ≤ b)

/-! ## Classifications -/

/-- Codes that end a connection without an error: a normal close, a close without a closing
handshake, and an attempt that was given up before it connected. -/
def isClean (code : CloseCode) : Bool :=
  code.number == 1000 || code.number == 1006 || code.number == -1

/-- Codes that a host may put into a close frame. -/
def isValid (code : CloseCode) : Bool :=
  let number := code.number.toInt
  (1000 ≤ number && number ≤ 1003) || (1007 ≤ number && number ≤ 1014)
    || (3000 ≤ number && number ≤ 4999)

/-- Codes that never appear on the wire. -/
def isReserved (code : CloseCode) : Bool :=
  let number := code.number.toInt
  number < 0 || (1004 ≤ number && number ≤ 1006) || number == 1015

/-! ## Status numbers on the wire -/

/-- The status that a close frame carries for a code; a number that does not fit into sixteen
bits falls back to the status of a normal close. -/
def status (code : CloseCode) : UInt16 :=
  let number := code.number.toInt
  if 0 ≤ number ∧ number ≤ 65535 then UInt16.ofNat number.toNat else 1000

/-- The code of a status read from a close frame. -/
def ofStatus (status : UInt16) : CloseCode :=
  ofNumber (Int32.ofNat status.toNat)

/-! ## Text -/

/-- The number in decimal. -/
def text (code : CloseCode) : String :=
  toString code.number.toInt

/-- The form of a code: its name, or its number within `Other`. -/
def describe : CloseCode → String
  | neverConnected => "NeverConnected"
  | normal => "Normal"
  | goingAway => "GoingAway"
  | protocolError => "ProtocolError"
  | unsupportedData => "UnsupportedData"
  | noStatus => "NoStatus"
  | abnormal => "Abnormal"
  | invalidPayload => "InvalidPayload"
  | policyViolation => "PolicyViolation"
  | messageTooBig => "MessageTooBig"
  | mandatoryExtension => "MandatoryExtension"
  | internalError => "InternalError"
  | tlsHandshake => "TlsHandshake"
  | other number => "Other(" ++ toString number.toInt ++ ")"

end CloseCode

end WebSocketClient
