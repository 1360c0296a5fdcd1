import WebSocketClient.Url.Host
import WebSocketClient.Url.Path
import WebSocketClient.Url.Pieces

/-!
# URLs

A URL is read in two steps.  `Url.Pieces` cuts the cleaned text into pieces without looking into
them; this module reads each piece on its own: the host, the port as a number that is left out when
it is the default of the scheme, the user name and the password, the path with its dots resolved,
the query and the fragment, each encoded as its part of a URL demands.

The written form of a URL is `href`.
-/

namespace WebSocketClient

set_option autoImplicit false

/-- A URL that was read. -/
structure Url where
  /-- The scheme, in small letters. -/
  scheme : String
  username : List Char
  password : List Char
  host : Option Url.Host
  /-- The port, unless it is the default of the scheme. -/
  port : Option Nat
  path : List Char
  query : Option (List Char)
  fragment : Option (List Char)
deriving DecidableEq, Repr

namespace Url

/-! ## The authority -/

/-- The user name and the password that are written before an at-sign. -/
def readUserinfo (text : List Char) : List Char × List Char :=
  let (name, password) := cutAtMark ':' text
  (percentEncode encodedInUserinfo name,
    percentEncode encodedInUserinfo (password.getD []))

/-- The number that a written port stands for; nothing if none is written. -/
def readPort (digits : List Char) : Except Fault (Option Nat) :=
  if digits = [] then .ok none
  else if digits.all Char.isDigit then
    match numberOfDigits? 10 digits with
    | some number => if number ≤ 65535 then .ok (some number) else .error .invalidPort
    | none => .error .invalidPort
  else .error .invalidPort

/-- What an authority says. -/
structure Site where
  username : List Char
  password : List Char
  host : Option Host
  /-- The port as it is written. -/
  port : Option Nat

/-- Reads the authority of a web address. -/
def readWebSite (text : List Char) : Except Fault Site := do
  let authority := Authority.ofText text
  if authority.host = [] then throw .emptyHost
  let host ← Host.readWeb authority.host
  let port ← readPort (authority.port.getD [])
  let (username, password) := readUserinfo (authority.userinfo.getD [])
  return ⟨username, password, some host, port⟩

/-- Reads the authority of a scheme with rules of its own.  The host may be empty, but then nothing
else may be written; a backslash ends the port, and what follows it belongs to the path.  `final`
says that nothing comes after the authority. -/
def readOtherSite (final : Bool) (text : List Char) : Except Fault (Site × List Char) := do
  let authority := Authority.ofText text
  if authority.userinfo = some [] ∧ authority.host = [] ∧ authority.port = none ∧ final = false then
    throw .emptyHost
  let host ← Host.readOther authority.host
  if authority.host = [] ∧ authority.port.isSome then throw .emptyHost
  let written := authority.port.getD []
  let port ← readPort (written.takeWhile (· != '\\'))
  let (username, password) := readUserinfo (authority.userinfo.getD [])
  if authority.host = [] then
    if username ≠ [] ∨ password ≠ [] then throw .emptyHost
    return (⟨username, password, none, port⟩, written.dropWhile (· != '\\'))
  return (⟨username, password, some host, port⟩, written.dropWhile (· != '\\'))

/-- Reads the host of a file: none, or one that is not this machine. -/
def readFileHost (text : List Char) : Except Fault (Option Host) :=
  if text = [] ∨ isDrive text then .ok none
  else
    match Host.readWeb text with
    | .error fault => .error fault
    | .ok host => .ok (if host = .name "localhost".toList then none else some host)

/-! ## The whole URL -/

/-- Reads the pieces of a web address. -/
def readWebPieces (scheme : String) (pieces : Pieces) : Except Fault Url := do
  let site ← readWebSite (pieces.authority.getD [])
  return {
    scheme
    username := site.username
    password := site.password
    host := site.host
    port := if site.port = defaultPort? scheme then none else site.port
    path := readPath (SchemeKind.isSlash .web) pieces.path
    query := pieces.query.map (percentEncode encodedInWebQuery)
    fragment := pieces.fragment.map (percentEncode encodedInFragment) }

/-- Reads the pieces of the name of a file. -/
def readFilePieces (scheme : String) (pieces : Pieces) : Except Fault Url := do
  let written := pieces.authority.getD []
  let host ← readFileHost written
  let path := if isDrive written then written ++ pieces.path else pieces.path
  return {
    scheme
    username := []
    password := []
    host
    port := none
    path := readPath (SchemeKind.isSlash .file) path
    query := pieces.query.map (percentEncode encodedInWebQuery)
    fragment := pieces.fragment.map (percentEncode encodedInFragment) }

/-- The path of a scheme with rules of its own: it is only resolved if it begins with a slash. -/
def readOtherPath (text : List Char) : List Char :=
  if text.head? = some '/' then readPath (SchemeKind.isSlash .other) text
  else percentEncode isControlOrWide text

/-- Reads the pieces of a URL whose scheme has rules of its own. -/
def readOtherPieces (scheme : String) (pieces : Pieces) : Except Fault Url := do
  let (site, rest) ← match pieces.authority with
    | some authority =>
      let final := pieces.path = [] && pieces.query.isNone && pieces.fragment.isNone
      readOtherSite final authority
    | none => pure (⟨[], [], none, none⟩, [])
  let path := rest ++ pieces.path
  return {
    scheme
    username := site.username
    password := site.password
    host := site.host
    port := site.port
    path := readOtherPath (if rest = [] then path else '/' :: path)
    query := pieces.query.map (percentEncode encodedInQuery)
    fragment := pieces.fragment.map (percentEncode encodedInFragment) }

/-- Reads a URL. -/
def parse (text : String) : Except Fault Url :=
  match cutScheme? (clean text) with
  | none => .error .missingScheme
  | some (written, rest) =>
    let scheme := String.ofList written
    let kind := SchemeKind.of scheme
    let pieces := Pieces.ofText kind rest
    match kind with
    | .web => readWebPieces scheme pieces
    | .file => readFilePieces scheme pieces
    | .other => readOtherPieces scheme pieces

/-! ## The written form -/

/-- The user name and password as they stand before the host. -/
def userinfoText (url : Url) : List Char :=
  if url.username = [] ∧ url.password = [] then []
  else
    url.username ++ (if url.password = [] then [] else ':' :: url.password) ++ ['@']

/-- The written form of the host; nothing if there is none. -/
def hostText (url : Url) : List Char :=
  match url.host with
  | some host => host.text
  | none => []

/-- The written form of a URL. -/
def href (url : Url) : String :=
  let marked (mark : Char) (part : Option (List Char)) : List Char :=
    match part with
    | some text => mark :: text
    | none => []
  let port := match url.port with
    | some number => ':' :: (toString number).toList
    | none => []
  String.ofList (url.scheme.toList ++ ':' :: '/' :: '/' :: (url.userinfoText ++ url.hostText ++ port
    ++ url.path ++ marked '?' url.query ++ marked '#' url.fragment))

end Url

end WebSocketClient
