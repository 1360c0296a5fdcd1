/-!
# Frame headers

A frame begins with a header: two bytes with the flags, the opcode and a short length, then two or
eight more bytes if the length does not fit, then four bytes of a masking key if the payload is
masked.  A length is written in the shortest of the three forms, and read in any of them.

The masking key itself is not kept.  Frames for this side must not be masked at all, and a header
that is written has a key of zeros, under which every payload is its own masked form.
-/

namespace WebSocketClient.Wire

set_option autoImplicit false

/-- The reserved bits, when none of them is set. -/
def noBits : Fin 8 :=
  0

/-- The header of a frame. -/
structure Header where
  fin : Bool := true
  /-- Three bits without a meaning. -/
  reserved : Fin 8 := noBits
  opcode : Fin 16
  masked : Bool := false
  length : Nat
deriving DecidableEq, Repr

/-! ## Numbers of several bytes -/

/-- The number that bytes write, the first byte weighing most. -/
def ofBigEndian (bytes : List UInt8) : Nat :=
  bytes.foldl (fun value byte => value * 256 + byte.toNat) 0

/-- The last `count` bytes of a number, the first byte weighing most. -/
def toBigEndian : Nat → Nat → List UInt8
  | 0, _ => []
  | count + 1, number => toBigEndian count (number / 256) ++ [UInt8.ofNat number]

namespace Header

/-! ## Writing -/

/-- The short length of a header, which may stand for two or eight more bytes. -/
def shortLength (length : Nat) : Nat :=
  if length < 126 then length else if length < 65536 then 126 else 127

/-- How many bytes of length follow a short length. -/
def lengthBytes (short : Nat) : Nat :=
  if short = 126 then 2 else if short = 127 then 8 else 0

/-- The bytes of a header. -/
def encode (header : Header) : List UInt8 :=
  let short := shortLength header.length
  [UInt8.ofNat ((if header.fin then 128 else 0) + header.reserved.val * 16 + header.opcode.val),
    UInt8.ofNat ((if header.masked then 128 else 0) + short)]
  ++ toBigEndian (lengthBytes short) header.length
  ++ List.replicate (if header.masked then 4 else 0) 0

/-! ## Reading -/

/-- Takes exactly as many bytes as asked for. -/
def take? (count : Nat) (bytes : List UInt8) : Option (List UInt8 × List UInt8) :=
  if count ≤ bytes.length then some (bytes.take count, bytes.drop count) else none

theorem length_le_of_take? {count : Nat} {bytes taken rest : List UInt8}
    (h : take? count bytes = some (taken, rest)) : rest.length ≤ bytes.length := by
  unfold take? at h
  split at h
  · cases h
    simp
  · cases h

/-- The header that two bytes and the bytes of a longer length make. -/
def ofParts (first second : Nat) (digits : List UInt8) : Header :=
  { fin := decide (128 ≤ first)
    reserved := Fin.ofNat 8 (first / 16)
    opcode := Fin.ofNat 16 first
    masked := decide (128 ≤ second)
    length := if lengthBytes (second % 128) = 0 then second % 128 else ofBigEndian digits }

/-- The header that two bytes begin, given the bytes after them. -/
def readRest? (first second : Nat) (bytes : List UInt8) : Option (Header × List UInt8) :=
  match take? (lengthBytes (second % 128)) bytes with
  | none => none
  | some (digits, bytes) =>
    match take? (if 128 ≤ second then 4 else 0) bytes with
    | none => none
    | some (_, bytes) => some (ofParts first second digits, bytes)

/-- The header at the start of some bytes and what follows it; nothing if the bytes end within the
header. -/
def read? : List UInt8 → Option (Header × List UInt8)
  | first :: second :: bytes => readRest? first.toNat second.toNat bytes
  | _ => none

theorem length_le_of_readRest? {first second : Nat} {bytes rest : List UInt8} {header : Header}
    (read : readRest? first second bytes = some (header, rest)) :
    rest.length ≤ bytes.length := by
  unfold readRest? at read
  split at read
  · cases read
  · rename_i taken
    split at read
    · cases read
    · rename_i takenKey
      cases read
      exact Nat.le_trans (length_le_of_take? takenKey) (length_le_of_take? taken)

/-- What follows a header is shorter than the whole. -/
theorem length_lt_of_read? {bytes rest : List UInt8} {header : Header}
    (read : read? bytes = some (header, rest)) : rest.length < bytes.length := by
  match bytes with
  | [] => cases read
  | [_] => cases read
  | first :: second :: tail =>
    have shorter := length_le_of_readRest? (show readRest? _ _ tail = _ from read)
    simp only [List.length_cons]
    omega

end Header

end WebSocketClient.Wire
