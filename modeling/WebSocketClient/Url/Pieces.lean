/-!
# The pieces of a written URL

Before anything in a URL is read, the text is cleaned and cut into pieces: blanks and controls
around it and all tabs and line ends in it are dropped, the scheme ends at the first colon, the
authority follows two slashes, and the path, the query and the fragment each end where the next
one begins.  Web addresses are cut more liberally: any number of slashes and backslashes may come
before the authority, and a backslash counts as a slash.

The pieces of an authority are what comes before its last at-sign, the host, and what comes after
the first colon that is not within brackets.
-/

namespace WebSocketClient.Url

set_option autoImplicit false

/-! ## Cleaning -/

/-- Blanks and controls, which are dropped around a URL. -/
def isOuterBlank (c : Char) : Bool :=
  c.toNat ≤ 0x20

/-- Tabs and line ends, which are dropped everywhere. -/
def isInnerBlank (c : Char) : Bool :=
  c == '\t' || c == '\n' || c == '\r'

/-- A text without what is dropped around it. -/
def trim (text : List Char) : List Char :=
  ((text.dropWhile isOuterBlank).reverse.dropWhile isOuterBlank).reverse

/-- A text without what a URL ignores. -/
def clean (text : String) : List Char :=
  (trim text.toList).filter fun c => !isInnerBlank c

/-! ## The scheme -/

/-- Characters of a scheme. -/
def isSchemeChar (c : Char) : Bool :=
  c.isAlphanum || c == '+' || c == '-' || c == '.'

/-- The scheme in small letters, and what follows its colon. -/
def cutScheme? (text : List Char) : Option (List Char × List Char) :=
  if text.head?.any Char.isAlpha then
    match text.dropWhile isSchemeChar with
    | ':' :: rest => some ((text.takeWhile isSchemeChar).map Char.toLower, rest)
    | _ => none
  else none

/-- How the rest of a URL is read: as a web address with a host, as a file, or otherwise. -/
inductive SchemeKind where
  | web
  | file
  | other
deriving DecidableEq, Repr

/-- The port of a web scheme when none is written. -/
def defaultPort? (scheme : String) : Option Nat :=
  if scheme = "ws" ∨ scheme = "http" then some 80
  else if scheme = "wss" ∨ scheme = "https" then some 443
  else if scheme = "ftp" then some 21
  else none

/-- The kind of a scheme: the web schemes are those with a default port. -/
def SchemeKind.of (scheme : String) : SchemeKind :=
  if (defaultPort? scheme).isSome then .web
  else if scheme = "file" then .file
  else .other

/-! ## Authority, path, query and fragment -/

/-- Characters that count as a slash. -/
def SchemeKind.isSlash (kind : SchemeKind) (c : Char) : Bool :=
  c == '/' || (kind != .other && c == '\\')

/-- Characters that end an authority. -/
def SchemeKind.endsAuthority (kind : SchemeKind) (c : Char) : Bool :=
  kind.isSlash c || c == '?' || c == '#'

/-- What follows the scheme, in pieces. -/
structure Pieces where
  authority : Option (List Char)
  path : List Char
  query : Option (List Char)
  fragment : Option (List Char)
deriving Repr

/-- The text up to the first occurrence of a mark, and what follows the mark. -/
def cutAtMark (mark : Char) (text : List Char) : List Char × Option (List Char) :=
  (text.takeWhile (· != mark), (text.dropWhile (· != mark)).tail?)

/-- Where the authority begins, if there is one. -/
def afterSlashes? (kind : SchemeKind) (text : List Char) : Option (List Char) :=
  match kind with
  | .web => some (text.dropWhile kind.isSlash)
  | .file | .other =>
    match text with
    | c :: d :: rest => if kind.isSlash c && kind.isSlash d then some rest else none
    | _ => none

/-- The pieces of what follows the scheme. -/
def Pieces.ofText (kind : SchemeKind) (text : List Char) : Pieces :=
  let start := afterSlashes? kind text
  let tail := match start with
    | some rest => rest.dropWhile fun c => !kind.endsAuthority c
    | none => text
  let (beforeFragment, fragment) := cutAtMark '#' tail
  let (path, query) := cutAtMark '?' beforeFragment
  { authority := start.map fun rest => rest.takeWhile fun c => !kind.endsAuthority c
    path, query, fragment }

/-! ## The pieces of an authority -/

/-- An authority in pieces. -/
structure Authority where
  /-- What comes before the last at-sign. -/
  userinfo : Option (List Char)
  host : List Char
  /-- What comes after the colon behind the host. -/
  port : Option (List Char)
deriving Repr

/-- What comes before the last at-sign, and what comes after it. -/
def cutUserinfo (text : List Char) : Option (List Char) × List Char :=
  if text.contains '@' then
    (some (text.reverse.dropWhile (· != '@')).tail.reverse,
      (text.reverse.takeWhile (· != '@')).reverse)
  else (none, text)

/-- The host, and what comes after the first colon that is not within brackets. -/
def cutPort (bracketed : Bool) : List Char → List Char × Option (List Char)
  | [] => ([], none)
  | c :: rest =>
    if c = ':' ∧ bracketed = false then ([], some rest)
    else
      let inside := if c = '[' then true else if c = ']' then false else bracketed
      let (host, port) := cutPort inside rest
      (c :: host, port)

/-- The pieces of an authority. -/
def Authority.ofText (text : List Char) : Authority :=
  let (userinfo, rest) := cutUserinfo text
  let (host, port) := cutPort false rest
  { userinfo, host, port }

end WebSocketClient.Url
