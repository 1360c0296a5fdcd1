import WebSocketClient.Idna.Domain
import WebSocketClient.Url.Address
import WebSocketClient.Url.Percent

/-!
# Hosts

The host of a web address is a domain name in the form in which it is looked up, or a numeric
address.  Other schemes keep the host as it is written, numeric addresses in brackets apart.
-/

namespace WebSocketClient.Url

set_option autoImplicit false

/-- Why a text is not a URL. -/
inductive Fault where
  | emptyHost
  | invalidDomain
  | invalidPort
  | invalidShortAddress
  | invalidLongAddress
  | invalidHostCharacter
  | missingScheme
deriving DecidableEq, Repr

/-- The wording of a fault. -/
def Fault.message : Fault → String
  | emptyHost => "empty host"
  | invalidDomain => "invalid international domain name"
  | invalidPort => "invalid port number"
  | invalidShortAddress => "invalid IPv4 address"
  | invalidLongAddress => "invalid IPv6 address"
  | invalidHostCharacter => "invalid domain character"
  | missingScheme => "relative URL without a base"

/-- The host of a URL. -/
inductive Host where
  /-- A name, or whatever a scheme takes for one. -/
  | name (text : List Char)
  /-- A short address. -/
  | short (address : Nat)
  /-- The eight pieces of a long address. -/
  | long (pieces : List Nat)
deriving DecidableEq, Repr

namespace Host

/-- The written form of a host. -/
def text : Host → List Char
  | name text => text
  | short address => shortText address
  | long pieces => '[' :: (longText pieces ++ [']'])

/-- Reads a long address in brackets; `text` is what follows the opening one. -/
def readBracketed (text : List Char) : Except Fault Host :=
  if text.getLast? = some ']' then
    match readLong? text.dropLast with
    | some pieces => .ok (.long pieces)
    | none => .error .invalidLongAddress
  else .error .invalidLongAddress

/-- Reads a domain name that may turn out to be a short address. -/
def readDomain (domain : List Char) : Except Fault Host :=
  if domain = [] then .error .emptyHost
  else if endsInNumber domain then
    match readShort? domain with
    | some address => .ok (.short address)
    | none => .error .invalidShortAddress
  else .ok (.name domain)

/-- The domain name that a text writes, with percent signs decoded. -/
def lookupForm? (text : List Char) : Option (List Char) :=
  match Utf8.decode (percentDecode (Utf8.encode (String.ofList text))) with
  | .ok decoded => Idna.toAscii? decoded.toList
  | .error _ => none

/-- Reads the host of a web address. -/
def readWeb (text : List Char) : Except Fault Host :=
  match text with
  | '[' :: rest => readBracketed rest
  | text =>
    match lookupForm? text with
    | some domain => readDomain domain
    | none => .error .invalidDomain

/-- Characters that no host may contain. -/
def isUnfit (c : Char) : Bool :=
  c == '\x00' || "\t\n\r #/:<>?@[\\]^|".toList.contains c

/-- Reads the host of any other scheme. -/
def readOther (text : List Char) : Except Fault Host :=
  match text with
  | '[' :: rest => readBracketed rest
  | text =>
    if text.any isUnfit then .error .invalidHostCharacter
    else .ok (.name (percentEncode isControlOrWide text))

end Host

end WebSocketClient.Url
