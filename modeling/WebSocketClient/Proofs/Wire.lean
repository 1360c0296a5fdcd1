import Mathlib.Algebra.Group.Nat.Defs
import WebSocketClient.Proofs.Utf8
import WebSocketClient.Wire.Intake

/-!
# What is written can be read

A number of several bytes comes back from its bytes (`Wire.ofBigEndian_toBigEndian`), a header from
its two to fourteen bytes (`Header.read?_encode`), and a frame from its header and its payload
(`Frame.read_encode`), whatever follows.  A length has eight bytes at most, so this is true of every
frame that could ever be written.

The payload of a close is a status and a reason, and it gives both of them back
(`CloseBody.decode_encode`).  A server writes a close as a single frame without a mask
(`CloseBody.serverFrame`).  Whoever reads it reads this close, even in the middle of a message that
comes in several frames (`Intake.readAll_serverFrame`).
-/

namespace WebSocketClient.Wire

set_option autoImplicit false

/-! ## Numbers of several bytes -/

theorem length_toBigEndian (count number : Nat) : (toBigEndian count number).length = count := by
  induction count generalizing number with
  | zero => rfl
  | succ count ih => rw [toBigEndian, List.length_append, ih, List.length_singleton]

/-- **A number comes back from its bytes**, if there are enough of them. -/
theorem ofBigEndian_toBigEndian {count number : Nat} (fits : number < 256 ^ count) :
    ofBigEndian (toBigEndian count number) = number := by
  induction count generalizing number with
  | zero =>
      rw [Nat.pow_zero, Nat.lt_one_iff] at fits
      exact fits.symm
  | succ count ih =>
      have shorter : number / 256 < 256 ^ count := by
        rw [Nat.pow_succ] at fits
        exact Nat.div_lt_of_lt_mul (Nat.mul_comm _ _ ▸ fits)
      have last : (UInt8.ofNat number).toNat = number % 256 := UInt8.toNat_ofNat'
      have concat : ofBigEndian (toBigEndian (count + 1) number) =
          ofBigEndian (toBigEndian count (number / 256)) * 256 + (UInt8.ofNat number).toNat :=
        List.foldl_append
      rw [concat, ih shorter, last]
      omega

/-! ## Headers -/

namespace Header

theorem take?_append {count : Nat} {taken : List UInt8} (length : taken.length = count)
    (rest : List UInt8) : take? count (taken ++ rest) = some (taken, rest) := by
  subst length
  rw [take?, if_pos (by rw [List.length_append]; omega), List.take_left, List.drop_left]

theorem shortLength_lt (length : Nat) : shortLength length < 128 := by
  unfold shortLength
  split
  · omega
  · split <;> decide

/-- A length is its own short length, or it has bytes of its own. -/
theorem length_eq {length : Nat} (fits : length < 256 ^ 8) :
    (if lengthBytes (shortLength length) = 0 then shortLength length
      else ofBigEndian (toBigEndian (lengthBytes (shortLength length)) length)) = length := by
  unfold shortLength
  split
  · rename_i short
    rw [if_pos]
    rw [lengthBytes, if_neg (by omega), if_neg (by omega)]
  · split
    · rename_i two
      have fits : length < 256 ^ 2 := two
      exact ofBigEndian_toBigEndian fits
    · exact ofBigEndian_toBigEndian fits

theorem flag_cases (flag : Bool) :
    (if flag then 128 else 0) = 0 ∨ (if flag then 128 else 0) = 128 := by
  cases flag with
  | false => exact .inl rfl
  | true => exact .inr rfl

/-- A flag is the highest bit of a byte. -/
theorem le_flag_iff {flag : Bool} {low : Nat} (small : low < 128) :
    128 ≤ (if flag then 128 else 0) + low ↔ flag = true := by
  cases flag with
  | false =>
      rw [if_neg Bool.false_ne_true]
      exact iff_of_false (by omega) Bool.false_ne_true
  | true => exact iff_of_true (Nat.le_add_right _ _) rfl

/-- The first byte holds a flag, three bits and four bits. -/
theorem first_eq (fin : Bool) (reserved : Fin 8) (opcode : Fin 16) :
    let first := (if fin then 128 else 0) + reserved.val * 16 + opcode.val
    (UInt8.ofNat first).toNat = first ∧ (128 ≤ first ↔ fin = true) ∧
      Fin.ofNat 8 (first / 16) = reserved ∧ Fin.ofNat 16 first = opcode := by
  intro first
  have sum : first = (if fin then 128 else 0) + (reserved.val * 16 + opcode.val) :=
    Nat.add_assoc _ _ _
  have flag := flag_cases fin
  refine ⟨UInt8.toNat_ofNat_of_lt' (show first < 256 by omega), ?_, Fin.ext ?_, Fin.ext ?_⟩
  · rw [sum]
    exact le_flag_iff (by omega)
  · show first / 16 % 8 = reserved.val
    omega
  · show first % 16 = opcode.val
    omega

/-- The second byte holds a flag and a short length. -/
theorem second_eq (masked : Bool) (length : Nat) :
    let second := (if masked then 128 else 0) + shortLength length
    (UInt8.ofNat second).toNat = second ∧ (128 ≤ second ↔ masked = true) ∧
      second % 128 = shortLength length := by
  intro second
  have short := shortLength_lt length
  have flag := flag_cases masked
  exact ⟨UInt8.toNat_ofNat_of_lt' (show second < 256 by omega), le_flag_iff short, by omega⟩

/-- **A header comes back from its bytes**, whatever follows. -/
theorem read?_encode {header : Header} (fits : header.length < 256 ^ 8) (rest : List UInt8) :
    read? (header.encode ++ rest) = some (header, rest) := by
  obtain ⟨fin, reserved, opcode, masked, length⟩ := header
  obtain ⟨first, fin_iff, reserved_eq, opcode_eq⟩ := first_eq fin reserved opcode
  obtain ⟨second, masked_iff, short⟩ := second_eq masked length
  simp only [encode, List.append_assoc, List.cons_append, List.nil_append, read?, readRest?, first,
    second, short, take?_append (length_toBigEndian _ _), masked_iff,
    take?_append List.length_replicate]
  rw [ofParts, short, length_eq fits, reserved_eq, opcode_eq]
  simp only [fin_iff, masked_iff, Bool.decide_eq_true]

end Header

/-! ## Frames -/

namespace Frame

variable {limit : Nat} {frame : Frame}

/-- A frame stands at the start of some bytes, and the rest follows. -/
def Leads (frame : Frame) (bytes rest : List UInt8) : Prop :=
  Header.read? bytes = some (frame.header, frame.payload ++ rest)

/-- A frame within the limit is read. -/
theorem read_of_leads {bytes rest : List UInt8} (leads : frame.Leads bytes rest)
    (within : frame.payload.length ≤ limit) : read limit bytes = .frame frame rest := by
  have known : Opcode.ofNumber? frame.header.opcode = some frame.opcode :=
    Opcode.ofNumber?_number frame.opcode
  have allowed : ¬ limit < frame.header.length := Nat.not_lt.mpr within
  have complete : ¬ (frame.payload ++ rest).length < frame.header.length := by
    rw [List.length_append]
    exact Nat.not_lt.mpr (Nat.le_add_right _ _)
  rw [read, leads]
  dsimp only
  rw [readPayload, known]
  dsimp only
  rw [if_neg allowed, if_neg complete]
  show Reading.frame { frame with payload := (frame.payload ++ rest).take frame.payload.length }
    ((frame.payload ++ rest).drop frame.payload.length) = _
  rw [List.take_left, List.drop_left]

theorem leads_encode (fits : frame.payload.length < 256 ^ 8) (rest : List UInt8) :
    frame.Leads (frame.encode ++ rest) rest := by
  rw [Leads, encode, List.append_assoc]
  exact Header.read?_encode fits _

/-- **A frame comes back from its bytes**, whatever follows, if it is within the limit. -/
theorem read_encode (fits : frame.payload.length < 256 ^ 8)
    (within : frame.payload.length ≤ limit) (rest : List UInt8) :
    read limit (frame.encode ++ rest) = .frame frame rest :=
  read_of_leads (leads_encode fits rest) within

end Frame

/-! ## Closes -/

namespace CloseBody

theorem length_encode (body : CloseBody) :
    body.encode.length = 2 + body.reason.utf8ByteSize := by
  rw [encode, List.length_append, length_toBigEndian, Utf8.length_encode]

/-- **A close comes back from its payload.** -/
theorem decode_encode (body : CloseBody) : decode body.encode = .ok (some body) := by
  have bytes : body.encode = UInt8.ofNat (body.status.toNat / 256) ::
      UInt8.ofNat body.status.toNat :: Utf8.encode body.reason := rfl
  have two : body.status.toNat < 256 ^ 2 := body.status.toNat_lt
  have status : ofBigEndian [UInt8.ofNat (body.status.toNat / 256), UInt8.ofNat body.status.toNat] =
      body.status.toNat := ofBigEndian_toBigEndian two
  rw [bytes, decode, Utf8.decode_encode]
  dsimp only
  rw [status, UInt16.ofNat_toNat]

/-- The frame in which a server sends a close. -/
def serverFrame (body : CloseBody) : Frame :=
  { opcode := .close, payload := body.encode }

end CloseBody

/-- A close is taken in at any time, and leaves an incomplete message as it is. -/
theorem takeFrame_serverFrame (limit : Nat) (fragments : Option Fragments) {body : CloseBody}
    (fits : body.encode.length ≤ Message.maxControl) :
    takeFrame limit fragments body.serverFrame = .ok (some (.close (some body)), fragments) := by
  have control : Message.ofControl body.serverFrame (.ok (.close (some body))) =
      .ok (.close (some body)) := by
    unfold Message.ofControl
    rw [if_neg (by exact Bool.false_ne_true)]
    exact if_neg (Nat.not_lt.mpr fits)
  show takeControl fragments body.serverFrame ((CloseBody.decode body.encode).map .close) = _
  rw [CloseBody.decode_encode, takeControl]
  show (Message.ofControl body.serverFrame (.ok (.close (some body)))).bind _ = _
  rw [control]
  rfl

namespace Intake

variable {limits : Limits} {body : CloseBody}

/-- Reading all is reading one frame, and then all that remains. -/
theorem readAll_eq (limits : Limits) (intake : Intake) :
    readAll limits intake =
      match intake.next? limits with
      | none => { rest := intake }
      | some (.error fault) => { fault := some fault, rest := intake }
      | some (.ok (message, rest)) =>
        { readAll limits rest with
          messages := message.toList ++ (readAll limits rest).messages } := by
  rw [readAll]
  split
  all_goals
    rename_i read
    rw [read]

/-- There is nothing to read in no bytes. -/
theorem readAll_nil (limits : Limits) (fragments : Option Fragments) :
    readAll limits ⟨[], fragments⟩ = { rest := ⟨[], fragments⟩ } :=
  readAll_eq limits _

/-- **The close that a server sends is read**, and nothing else. -/
theorem readAll_serverFrame (fragments : Option Fragments)
    (fits : body.encode.length ≤ Message.maxControl) (within : body.encode.length ≤ limits.frame) :
    readAll limits ⟨body.serverFrame.encode, fragments⟩ =
      { messages := [.close (some body)], rest := ⟨[], fragments⟩ } := by
  have bounded : body.serverFrame.payload.length < 256 ^ 8 :=
    Nat.lt_of_le_of_lt fits (by decide)
  have next : next? limits ⟨body.serverFrame.encode, fragments⟩ =
      some (.ok (some (.close (some body)), ⟨[], fragments⟩)) := by
    have read := Frame.read_encode bounded within []
    rw [List.append_nil] at read
    rw [next?, read]
    dsimp only
    rw [takeFrame_serverFrame limits.message fragments fits]
  rw [readAll_eq, next]
  dsimp only
  rw [readAll_nil]
  rfl

end Intake

end WebSocketClient.Wire
