/-!
# Where a client dials

A client does not use the parsed form of an endpoint.  It reads the text again as it was given, by
rules that are stricter in places and looser in others: no blanks are removed, no letters change
case, nothing is encoded.  What it takes from the text is a scheme, if there is one, the
authority, which holds the host and the port, and the target, which is the path and the query that
the request names.

The authority is read character by character, and the first fault counts.  Square brackets may
occur once as a pair; a percent sign and more than one colon are allowed only in front of `@` or
within the brackets.
-/

namespace WebSocketClient

set_option autoImplicit false

/-- The place that a text names for a client, in parts as they are written.  The target is the path
and the query, or a slash if there is neither. -/
structure Dial where
  scheme : Option String
  /-- User, host and port as they are written. -/
  authority : String
  target : String
deriving DecidableEq, Repr

namespace Dial

/-! ## Faults -/

/-- Why a client cannot dial. -/
inductive Fault where
  | tooLong
  | invalidCharacter
  | invalidAuthority
  | invalidFormat
  /-- The scheme is not one of a connection, or there is none and no port either. -/
  | unsupportedScheme
  | noSecurity
deriving DecidableEq, Repr

/-- The wording for a reader. -/
def Fault.message : Fault → String
  | tooLong => "HTTP format error: uri too long"
  | invalidCharacter => "HTTP format error: invalid uri character"
  | invalidAuthority => "HTTP format error: invalid authority"
  | invalidFormat => "HTTP format error: invalid format"
  | unsupportedScheme => "URL error: URL scheme not supported"
  | noSecurity => "URL error: TLS support not compiled in"

/-! ## Scheme -/

/-- The longest text that is read, in bytes. -/
def maxLength : Nat :=
  65534

/-- The characters of a scheme. -/
def isSchemeChar (c : Char) : Bool :=
  c.isAlphanum || c == '+' || c == '-' || c == '.'

/-- Splits off the scheme, with the colon and the two slashes that must follow it. -/
def splitScheme (chars : List Char) : Option String × List Char :=
  match chars.dropWhile isSchemeChar with
  | ':' :: '/' :: '/' :: rest => (some (String.ofList (chars.takeWhile isSchemeChar)), rest)
  | _ => (none, chars)

/-! ## Authority -/

/-- The characters after which the authority is over. -/
def endsAuthority (c : Char) : Bool :=
  c == '/' || c == '?' || c == '#'

/-- The characters of an authority that have no meaning there. -/
def isPlainChar (c : Char) : Bool :=
  c.isAlphanum || "!$&'()*+,-.;=_~".toList.contains c

/-- What has been seen of an authority. -/
structure Seen where
  /-- Colons since the last bracket or `@`. -/
  colons : Nat := 0
  opened : Bool := false
  closed : Bool := false
  /-- There was a percent sign since the last closing bracket or `@`. -/
  percent : Bool := false
  atSign : Bool := false
deriving DecidableEq, Repr

namespace Seen

/-- The most colons that brackets can hold. -/
def maxColons : Nat :=
  8

/-- One more character. -/
def add (seen : Seen) (c : Char) : Except Fault Seen :=
  let seen := { seen with atSign := false }
  match c with
  | ':' =>
    if maxColons ≤ seen.colons then .error .invalidAuthority
    else .ok { seen with colons := seen.colons + 1 }
  | '[' =>
    if seen.percent || seen.opened then .error .invalidAuthority
    else .ok { seen with opened := true }
  | ']' =>
    if !seen.opened || seen.closed then .error .invalidAuthority
    else .ok { seen with closed := true, colons := 0, percent := false }
  | '@' => .ok { seen with colons := 0, percent := false, atSign := true }
  | '%' => .ok { seen with percent := true }
  | c => if isPlainChar c then .ok seen else .error .invalidCharacter

/-- Whether an authority may end here. -/
def isComplete (seen : Seen) : Bool :=
  seen.opened == seen.closed && seen.colons ≤ 1 && !seen.atSign && !seen.percent

end Seen

/-- Checks the characters of an authority. -/
def checkAuthority (chars : List Char) : Except Fault Unit := do
  let seen ← chars.foldlM Seen.add {}
  if seen.isComplete then return () else throw .invalidAuthority

/-! ## Target -/

/-- The characters of a path. -/
def isPathChar (c : Char) : Bool :=
  let n := c.toNat
  n == 0x21 || n == 0x22 || (0x24 ≤ n && n ≤ 0x3b) || n == 0x3d || (0x40 ≤ n && n ≤ 0x5f)
    || 0x61 ≤ n

/-- The characters of a query. -/
def isQueryChar (c : Char) : Bool :=
  let n := c.toNat
  n == 0x21 || (0x24 ≤ n && n ≤ 0x3b) || n == 0x3d || 0x3f ≤ n

/-- The target that follows an authority; a fragment is left off. -/
def readTarget (chars : List Char) : Except Fault String :=
  let sent := chars.takeWhile (· != '#')
  let path := sent.takeWhile (· != '?')
  let query := (sent.dropWhile (· != '?')).drop 1
  if path.all isPathChar && query.all isQueryChar then
    .ok (if sent = [] then "/" else String.ofList sent)
  else .error .invalidCharacter

/-! ## The whole text -/

/-- Reads the place to dial. -/
def parse (text : String) : Except Fault Dial := do
  if maxLength < text.utf8ByteSize then throw .tooLong
  let (scheme, rest) := splitScheme text.toList
  let authority := rest.takeWhile (!endsAuthority ·)
  let after := rest.dropWhile (!endsAuthority ·)
  checkAuthority authority
  match scheme with
  | none =>
    if after = [] then return ⟨none, String.ofList authority, "/"⟩ else throw .invalidFormat
  | some _ =>
    if authority = [] then throw .invalidFormat
    return ⟨scheme, String.ofList authority, ← readTarget after⟩

/-! ## Host and port -/

/-- What follows the last occurrence of a character; the whole if there is none. -/
def afterLast (separator : Char) (chars : List Char) : List Char :=
  (chars.reverse.takeWhile (· != separator)).reverse

/-- The host, with its brackets if it has any. -/
def host (dial : Dial) : String :=
  let place := afterLast '@' dial.authority.toList
  String.ofList <|
    if place.head? = some '[' then place.takeWhile (· != ']') ++ [']']
    else place.takeWhile (· != ':')

/-- The number that digits write, if it is a port; a plus sign may stand before them. -/
def portNumber? (chars : List Char) : Option Nat :=
  let digits := if chars.head? = some '+' then chars.drop 1 else chars
  if digits = [] || !digits.all Char.isDigit then none
  else
    let number := digits.foldl (fun value digit => value * 10 + (digit.toNat - '0'.toNat)) 0
    if number < 65536 then some number else none

/-- The port that is written behind the last colon. -/
def writtenPort? (dial : Dial) : Option Nat :=
  if dial.authority.toList.contains ':' then
    portNumber? (afterLast ':' dial.authority.toList)
  else none

/-- The port of a scheme; only small letters count. -/
def schemePort? : Option String → Option Nat
  | some "ws" => some 80
  | some "wss" => some 443
  | _ => none

/-- The port to dial. -/
def port? (dial : Dial) : Option Nat :=
  dial.writtenPort? <|> schemePort? dial.scheme

/-- Whether a connection that has been made can be used: only without security. -/
def checkScheme (dial : Dial) : Except Fault Unit :=
  match dial.scheme with
  | some "ws" => .ok ()
  | some "wss" => .error .noSecurity
  | _ => .error .unsupportedScheme

/-- The first line of the request for the target. -/
def requestLine (dial : Dial) : String :=
  "GET " ++ dial.target ++ " HTTP/1.1"

end Dial

end WebSocketClient
