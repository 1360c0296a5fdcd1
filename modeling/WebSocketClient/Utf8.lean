/-!
# UTF-8

Texts on the wire are sequences of bytes.  A character takes one to four bytes: the first one says
how many follow, and between which bounds the second one must lie, so that no character has two
encodings and no number without a character is encoded.

Reading stops at the first fault.  A fault is either a sequence that no further byte can mend, or a
sequence that ends too early.
-/

namespace WebSocketClient.Utf8

set_option autoImplicit false

/-- The bytes of a text. -/
def encode (text : String) : List UInt8 :=
  text.toUTF8.toList

/-! ## One character -/

/-- The bounds of the bytes that follow a first byte, if it can be one. -/
def tailBounds? (lead : Nat) : Option (List (Nat × Nat)) :=
  if lead ≤ 0x7f then some []
  else if 0xc2 ≤ lead ∧ lead ≤ 0xdf then some [(0x80, 0xbf)]
  else if lead = 0xe0 then some [(0xa0, 0xbf), (0x80, 0xbf)]
  else if lead = 0xed then some [(0x80, 0x9f), (0x80, 0xbf)]
  else if 0xe1 ≤ lead ∧ lead ≤ 0xef then some [(0x80, 0xbf), (0x80, 0xbf)]
  else if lead = 0xf0 then some [(0x90, 0xbf), (0x80, 0xbf), (0x80, 0xbf)]
  else if 0xf1 ≤ lead ∧ lead ≤ 0xf3 then some [(0x80, 0xbf), (0x80, 0xbf), (0x80, 0xbf)]
  else if lead = 0xf4 then some [(0x80, 0x8f), (0x80, 0xbf), (0x80, 0xbf)]
  else none

/-- The bits of the character value that a first byte carries. -/
def leadBits (lead : Nat) : Nat :=
  if lead ≤ 0x7f then lead
  else if lead ≤ 0xdf then lead % 32
  else if lead ≤ 0xef then lead % 16
  else lead % 8

/-- What reading one character comes to. -/
inductive Reading where
  | char (c : Char) (rest : List UInt8)
  /-- The first bytes, as many as given, belong to no character. -/
  | invalid (length : Nat)
  | incomplete
deriving Repr

/-- Reads the bytes that follow a first byte; `value` holds the bits so far, and `count` the number
of bytes. -/
def readTail (value count : Nat) : List (Nat × Nat) → List UInt8 → Reading
  | [], rest => .char (Char.ofNat value) rest
  | _ :: _, [] => .incomplete
  | (low, high) :: bounds, byte :: rest =>
    if low ≤ byte.toNat ∧ byte.toNat ≤ high then
      readTail (value * 64 + byte.toNat % 64) (count + 1) bounds rest
    else .invalid count

/-- Reads the character that begins with a byte. -/
def readChar (lead : UInt8) (rest : List UInt8) : Reading :=
  match tailBounds? lead.toNat with
  | none => .invalid 1
  | some bounds => readTail (leadBits lead.toNat) 1 bounds rest

/-- What follows a character is no longer than what follows its first byte. -/
theorem length_le_of_readTail {bounds : List (Nat × Nat)} :
    ∀ {value count : Nat} {bytes rest : List UInt8} {c : Char},
      readTail value count bounds bytes = .char c rest → rest.length ≤ bytes.length := by
  induction bounds with
  | nil =>
    intro value count bytes rest c h
    simp only [readTail, Reading.char.injEq] at h
    simp [h.2]
  | cons bound bounds ih =>
    intro value count bytes rest c h
    cases bytes with
    | nil => simp [readTail] at h
    | cons byte bytes =>
      simp only [readTail] at h
      split at h
      · exact Nat.le_trans (ih h) (by simp)
      · cases h

theorem length_le_of_readChar {lead : UInt8} {bytes rest : List UInt8} {c : Char}
    (h : readChar lead bytes = .char c rest) : rest.length ≤ bytes.length := by
  unfold readChar at h
  split at h
  · cases h
  · exact length_le_of_readTail h

/-! ## Whole texts -/

/-- The first place where bytes are not UTF-8. -/
structure Fault where
  /-- How many bytes before it are in order. -/
  index : Nat
  /-- How many bytes belong to no character; nothing if the bytes end within one. -/
  length : Option Nat
deriving DecidableEq, Repr

/-- The wording of a fault. -/
def Fault.message (fault : Fault) : String :=
  match fault.length with
  | some length =>
    "invalid utf-8 sequence of " ++ toString length ++ " bytes from index " ++ toString fault.index
  | none => "incomplete utf-8 byte sequence from index " ++ toString fault.index

/-- Characters read from bytes, up to the end or to a fault, and the bytes from the fault on. -/
structure Scan where
  chars : List Char
  rest : List UInt8
  fault : Option Fault
deriving Repr

/-- Reads characters, behind those that were read before. -/
def scanFrom (seen : List Char) (index : Nat) (bytes : List UInt8) : Scan :=
  match bytes with
  | [] => ⟨seen.reverse, [], none⟩
  | lead :: tail =>
    match _h : readChar lead tail with
    | .char c rest => scanFrom (c :: seen) (index + c.utf8Size) rest
    | .invalid length => ⟨seen.reverse, lead :: tail, some ⟨index, some length⟩⟩
    | .incomplete => ⟨seen.reverse, lead :: tail, some ⟨index, none⟩⟩
termination_by bytes.length
decreasing_by
  have := length_le_of_readChar (by assumption)
  simp only [List.length_cons]
  omega

/-- Reads as many characters as there are. -/
def scan (bytes : List UInt8) : Scan :=
  scanFrom [] 0 bytes

/-- The text that bytes encode, or the first fault. -/
def decode (bytes : List UInt8) : Except Fault String :=
  let result := scan bytes
  match result.fault with
  | none => .ok (String.ofList result.chars)
  | some fault => .error fault

end WebSocketClient.Utf8
