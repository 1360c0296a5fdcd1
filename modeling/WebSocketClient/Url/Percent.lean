import WebSocketClient.Utf8

/-!
# Percent encoding

A character that cannot stand for itself in a part of a URL is written as its bytes, each as a
percent sign with two hexadecimal digits.  Which characters that are depends on the part; none of
the parts takes characters beyond the first 128 as they are.  Decoding leaves a percent sign alone
that two hexadecimal digits do not follow.
-/

namespace WebSocketClient.Url

set_option autoImplicit false

/-! ## Encoding -/

/-- A hexadecimal digit in upper case. -/
def upperHexDigit (digit : Nat) : Char :=
  if digit < 10 then Char.ofNat ('0'.toNat + digit) else Char.ofNat ('A'.toNat + (digit - 10))

/-- A byte with its percent sign. -/
def encodeByte (byte : UInt8) : List Char :=
  ['%', upperHexDigit (byte.toNat / 16), upperHexDigit (byte.toNat % 16)]

/-- Controls and everything beyond the first 128 characters are always encoded. -/
def isControlOrWide (c : Char) : Bool :=
  c.toNat < 0x20 || 0x7e < c.toNat

/-- Characters encoded in a fragment. -/
def encodedInFragment (c : Char) : Bool :=
  isControlOrWide c || " \"<>`".toList.contains c

/-- Characters encoded in a path. -/
def encodedInPath (c : Char) : Bool :=
  encodedInFragment c || "#?\x7b\x7d".toList.contains c

/-- Characters encoded in a user name or password. -/
def encodedInUserinfo (c : Char) : Bool :=
  encodedInPath c || "/:;=@[\\]^|".toList.contains c

/-- Characters encoded in a query. -/
def encodedInQuery (c : Char) : Bool :=
  isControlOrWide c || " \"#<>".toList.contains c

/-- Characters encoded in the query of a web address. -/
def encodedInWebQuery (c : Char) : Bool :=
  encodedInQuery c || c == '\''

/-- Encodes the characters that a part of a URL does not take. -/
def percentEncode (isEncoded : Char → Bool) (text : List Char) : List Char :=
  text.flatMap fun c =>
    if isEncoded c then (Utf8.encode c.toString).flatMap encodeByte else [c]

/-! ## Decoding -/

/-- The value of a hexadecimal digit in either case, given as a byte. -/
def hexValue? (byte : UInt8) : Option Nat :=
  let n := byte.toNat
  if 48 ≤ n ∧ n ≤ 57 then some (n - 48)
  else if 65 ≤ n ∧ n ≤ 70 then some (n - 55)
  else if 97 ≤ n ∧ n ≤ 102 then some (n - 87)
  else none

/-- The byte that two hexadecimal digits write. -/
def byteOfHex? (high low : UInt8) : Option UInt8 := do
  let h ← hexValue? high
  let l ← hexValue? low
  return UInt8.ofNat (16 * h + l)

/-- Decodes what was encoded, and leaves everything else as it is. -/
def percentDecode : List UInt8 → List UInt8
  | [] => []
  | byte :: rest =>
    if byte = 37 then
      match rest with
      | high :: low :: tail =>
        match byteOfHex? high low with
        | some decoded => decoded :: percentDecode tail
        | none => byte :: percentDecode (high :: low :: tail)
      | short => byte :: short
    else byte :: percentDecode rest

end WebSocketClient.Url
