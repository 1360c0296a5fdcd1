import WebSocketClient.Http.Fault

/-!
# Heads of responses

The head of a response is a line with the version and the status, lines with fields, and an empty
line.  A line ends with a line feed, which a carriage return may precede.  Reading goes from byte
to byte: a fault is found at the first byte that is out of place, and as long as there is none the
head may simply not be complete yet.
-/

namespace WebSocketClient.Http

set_option autoImplicit false

/-- A field of a head. -/
structure Field where
  name : List UInt8
  value : List UInt8
deriving DecidableEq, Repr

/-- The head of a response. -/
structure Head where
  /-- The part of the version behind the dot. -/
  minor : Nat
  status : Nat
  fields : List Field
deriving DecidableEq, Repr

/-! ## Readers -/

/-- What reading from bytes comes to. -/
inductive Reading (α : Type) where
  | incomplete
  | fault (fault : Fault)
  | done (value : α) (rest : List UInt8)
deriving Repr

/-- A reader takes a value off the start of some bytes. -/
def Reader (α : Type) : Type :=
  List UInt8 → Reading α

namespace Reader

instance : Monad Reader where
  pure value := fun bytes => .done value bytes
  bind reader next := fun bytes =>
    match reader bytes with
    | .incomplete => .incomplete
    | .fault fault => .fault fault
    | .done value rest => next value rest

/-- A reader that finds a fault. -/
def fail {α : Type} (fault : Fault) : Reader α :=
  fun _ => .fault fault

/-- Reads any byte. -/
def byte : Reader UInt8
  | [] => .incomplete
  | first :: rest => .done first rest

/-- Reads a byte that must be of a certain kind. -/
def byteOf (allowed : UInt8 → Bool) (fault : Fault) : Reader UInt8 := do
  let first ← byte
  if allowed first then return first else fail fault

/-- Reads as many bytes of a kind as there are. -/
def run (allowed : UInt8 → Bool) : Reader (List UInt8) :=
  fun bytes => .done (bytes.takeWhile allowed) (bytes.dropWhile allowed)

/-- Reads the given bytes. -/
def exactly (fault : Fault) : List UInt8 → Reader Unit
  | [] => pure ()
  | expected :: others => do
    let _ ← byteOf (· == expected) fault
    exactly fault others

end Reader

/-! ## Kinds of bytes -/

/-- Carriage return. -/
def returnByte : UInt8 :=
  13

/-- Line feed. -/
def feedByte : UInt8 :=
  10

/-- Decimal digits. -/
def isDigit (byte : UInt8) : Bool :=
  48 ≤ byte && byte ≤ 57

/-- Blanks and tabs. -/
def isBlank (byte : UInt8) : Bool :=
  byte == 32 || byte == 9

/-- The bytes of a phrase and of a value: all but control characters, and tabs. -/
def isTextByte (byte : UInt8) : Bool :=
  byte == 9 || (32 ≤ byte && byte != 127)

/-- The bytes of a field's name. -/
def isNameByte (byte : UInt8) : Bool :=
  let c := Char.ofNat byte.toNat
  c.isAlphanum || "!#$%&'*+-.^_`|~".toList.contains c

/-! ## The parts of a head -/

open Reader

/-- Reads the end of a line, where a carriage return must be followed by a line feed. -/
def lineEnd (fault : Fault) : Reader Unit := do
  let first ← byteOf (fun byte => byte == returnByte || byte == feedByte) fault
  if first == returnByte then
    let _ ← byteOf (· == feedByte) fault

/-- Reads the empty lines in front of a head. -/
def skipEmptyLines : Reader Unit
  | [] => .incomplete
  | first :: rest =>
    if first == feedByte then skipEmptyLines rest
    else if first == returnByte then
      match rest with
      | [] => .incomplete
      | second :: rest =>
        if second == feedByte then skipEmptyLines rest else .fault .newLine
    else .done () (first :: rest)

/-- Reads the version, and gives the part behind the dot. -/
def readMinor : Reader Nat := do
  exactly .version "HTTP/1.".toUTF8.toList
  let minor ← byteOf (fun byte => byte == 48 || byte == 49) .version
  return minor.toNat - 48

/-- Reads the three digits of a status. -/
def readStatus : Reader Nat := do
  let hundreds ← byteOf isDigit .status
  let tens ← byteOf isDigit .status
  let ones ← byteOf isDigit .status
  return (hundreds.toNat - 48) * 100 + (tens.toNat - 48) * 10 + (ones.toNat - 48)

/-- Reads the rest of the first line: a phrase behind a blank, or nothing. -/
def skipPhrase : Reader Unit := do
  let blank ← run (· == 32)
  if blank = [] then lineEnd .status
  else
    let _ ← run isTextByte
    lineEnd .status

/-- Removes the blanks at the end of a value. -/
def trimEnd (value : List UInt8) : List UInt8 :=
  (value.reverse.dropWhile isBlank).reverse

/-- Reads a field. -/
def readField : Reader Field := do
  let first ← byteOf isNameByte .fieldName
  let others ← run isNameByte
  let _ ← byteOf (· == 58) .fieldName
  let _ ← run isBlank
  let value ← run isTextByte
  lineEnd .fieldValue
  return ⟨first :: others, trimEnd value⟩

/-- Whether the next byte can only belong to the empty line behind the fields. -/
def atEmptyLine : Reader Bool
  | [] => .incomplete
  | first :: rest => .done (first == returnByte || first == feedByte) (first :: rest)

/-- The most fields that are read. -/
def maxFields : Nat :=
  124

/-- Reads fields, up to the empty line behind them; `room` is the number that may still come. -/
def readFields : Nat → Reader (List Field)
  | 0 => do
    if ← atEmptyLine then
      lineEnd .newLine
      return []
    else
      let _ ← readField
      fail .tooManyFields
  | room + 1 => do
    if ← atEmptyLine then
      lineEnd .newLine
      return []
    else
      let field ← readField
      return field :: (← readFields room)

/-- Reads a head. -/
def readHead : Reader Head := do
  skipEmptyLines
  let minor ← readMinor
  let _ ← byteOf (· == 32) .version
  let status ← readStatus
  skipPhrase
  return ⟨minor, status, ← readFields maxFields⟩

/-! ## Fields by name -/

namespace Head

/-- A letter as a small one, and any other byte as it is. -/
def small (byte : UInt8) : UInt8 :=
  if 65 ≤ byte && byte ≤ 90 then byte + 32 else byte

/-- Whether bytes spell a text, capital and small letters being the same. -/
def spells (bytes : List UInt8) (text : String) : Bool :=
  bytes.map small == text.toUTF8.toList.map small

/-- The value of the first field with a name. -/
def value? (head : Head) (name : String) : Option (List UInt8) :=
  (head.fields.find? fun field => spells field.name name).map Field.value

end Head

end WebSocketClient.Http
