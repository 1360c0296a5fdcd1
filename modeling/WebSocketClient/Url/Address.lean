/-!
# Numeric host addresses

A host may be given as a number.  The four bytes of a short address are written with full stops
between them, in decimal, octal or hexadecimal, and the last number may stand for several bytes.
The eight pieces of a long address are written in hexadecimal with colons between them; one run of
zero pieces may be left out, and the last two pieces may be written like a short address.

Both kinds have one written form each, `Address.text`, which reading accepts.
-/

namespace WebSocketClient.Url

set_option autoImplicit false

/-- Cuts a text at every occurrence of a separator. -/
def cutAt (separator : Char) (text : List Char) : List (List Char) :=
  let add (c : Char) (parts : List (List Char)) : List (List Char) :=
    if c = separator then [] :: parts
    else match parts with
      | [] => [[c]]
      | part :: others => (c :: part) :: others
  text.foldr add [[]]

/-- The value of a digit in a base of at most sixteen. -/
def digitValue? (base : Nat) (c : Char) : Option Nat :=
  let value? :=
    if '0' ≤ c ∧ c ≤ '9' then some (c.toNat - '0'.toNat)
    else if 'a' ≤ c ∧ c ≤ 'f' then some (c.toNat - 'a'.toNat + 10)
    else if 'A' ≤ c ∧ c ≤ 'F' then some (c.toNat - 'A'.toNat + 10)
    else none
  value?.filter (· < base)

/-- The number that digits write. -/
def numberOfDigits? (base : Nat) (digits : List Char) : Option Nat :=
  (digits.mapM (digitValue? base)).map fun values =>
    values.foldl (fun number digit => base * number + digit) 0

/-! ## Short addresses -/

/-- A number of a short address: hexadecimal behind `0x`, octal behind any other leading zero. -/
def shortNumber? : List Char → Option Nat
  | [] => none
  | '0' :: 'x' :: digits => numberOfDigits? 16 digits
  | '0' :: 'X' :: digits => numberOfDigits? 16 digits
  | '0' :: digit :: digits => numberOfDigits? 8 (digit :: digits)
  | digits => numberOfDigits? 10 digits

/-- The parts of a host name between its full stops, without the empty part after a final one. -/
def shortParts (host : List Char) : List (List Char) :=
  let parts := cutAt '.' host
  if parts.length ≠ 1 ∧ parts.getLast? = some [] then parts.dropLast else parts

/-- A host whose last part is a number is meant as a short address. -/
def endsInNumber (host : List Char) : Bool :=
  match (shortParts host).getLast? with
  | none => false
  | some last => (last != [] && last.all Char.isDigit) || (shortNumber? last).isSome

/-- The short address with the given numbers: all but the last one are bytes, and the last one
fills what they leave. -/
def shortAddress? (numbers : List Nat) : Option Nat :=
  match numbers.getLast? with
  | none => none
  | some last =>
    let bytes := numbers.dropLast
    if 3 < bytes.length ∨ bytes.any (255 < ·) ∨ Nat.pow 256 (4 - bytes.length) ≤ last then none
    else
      let high := bytes.foldl (fun number byte => 256 * number + byte) 0
      some (high * Nat.pow 256 (4 - bytes.length) + last)

/-- Reads a short address. -/
def readShort? (host : List Char) : Option Nat := do
  let numbers ← (shortParts host).mapM shortNumber?
  shortAddress? numbers

/-- A short address in decimal bytes. -/
def shortText (address : Nat) : List Char :=
  let byte (place : Nat) : List Char := (toString (address / Nat.pow 256 place % 256)).toList
  List.intercalate ['.'] [byte 3, byte 2, byte 1, byte 0]

/-! ## Long addresses -/

/-- One piece: one to four hexadecimal digits. -/
def longPiece? (digits : List Char) : Option Nat :=
  if digits.length = 0 ∨ 4 < digits.length then none else numberOfDigits? 16 digits

/-- A byte in decimal, without a leading zero. -/
def decimalByte? (digits : List Char) : Option Nat :=
  match digits with
  | [] => none
  | first :: others =>
    if first = '0' ∧ others ≠ [] then none
    else (numberOfDigits? 10 digits).filter (· ≤ 255)

/-- The two pieces of four decimal bytes. -/
def dottedPieces? (text : List Char) : Option (List Nat) := do
  let bytes ← (cutAt '.' text).mapM decimalByte?
  match bytes with
  | [a, b, c, d] => return [256 * a + b, 256 * c + d]
  | _ => none

/-- The pieces between colons; the last one may be four decimal bytes if `dotted` allows it. -/
def longPieces? (dotted : Bool) (text : List Char) : Option (List Nat) :=
  if text = [] then some []
  else
    let groups := cutAt ':' text
    match groups.getLast? with
    | none => none
    | some last => do
      let front ← groups.dropLast.mapM longPiece?
      let back ← if dotted && last.contains '.' then dottedPieces? last
        else (longPiece? last).map ([·])
      return front ++ back

/-- Cuts a text at the first double colon. -/
def cutAtGap? : List Char → Option (List Char × List Char)
  | [] => none
  | [_] => none
  | c :: d :: rest =>
    if c = ':' ∧ d = ':' then some ([], rest)
    else (cutAtGap? (d :: rest)).map fun (before, after) => (c :: before, after)

/-- Reads the eight pieces of a long address. -/
def readLong? (text : List Char) : Option (List Nat) :=
  match cutAtGap? text with
  | none => (longPieces? true text).filter (·.length = 8)
  | some (before, after) => do
    let front ← longPieces? false before
    let back ← longPieces? true after
    if front.length + back.length ≤ 7 then
      return front ++ List.replicate (8 - (front.length + back.length)) 0 ++ back
    else none

/-- The length of the run of zeros that pieces begin with. -/
def zeroRun (pieces : List Nat) : Nat :=
  (pieces.takeWhile (· = 0)).length

/-- The start and length of the longest run of zeros, the first one if there are several.  `start`
is the position of the first piece in the whole address. -/
def longestZeroRun (start : Nat) : List Nat → Nat × Nat
  | [] => (start, 0)
  | piece :: rest =>
    let here := zeroRun (piece :: rest)
    let later := longestZeroRun (start + 1) rest
    if later.2 ≤ here then (start, here) else later

/-- Pieces in hexadecimal with colons between them. -/
def piecesText (pieces : List Nat) : List Char :=
  List.intercalate [':'] (pieces.map (Nat.toDigits 16))

/-- A long address, with its longest run of at least two zeros left out. -/
def longText (pieces : List Nat) : List Char :=
  let (start, length) := longestZeroRun 0 pieces
  if length < 2 then piecesText pieces
  else
    piecesText (pieces.take start) ++ [':', ':'] ++ piecesText (pieces.drop (start + length))

end WebSocketClient.Url
