import WebSocketClient.Url.Address
import WebSocketClient.Url.Percent

/-!
# Paths

A path is a list of segments.  A segment of one full stop stands for the place itself, and one of
two full stops for the place above; either may be written with percent signs.  Both are resolved
when the path is read, so that the written form holds neither.  A segment that names a drive, such
as `C:`, is never left.
-/

namespace WebSocketClient.Url

set_option autoImplicit false

/-- A segment with percent-encoded full stops replaced by plain ones. -/
def plainDots : List Char → List Char
  | '%' :: '2' :: 'e' :: rest => '.' :: plainDots rest
  | '%' :: '2' :: 'E' :: rest => '.' :: plainDots rest
  | c :: rest => c :: plainDots rest
  | [] => []

/-- The segment that stands for the place itself. -/
def isSingleDot (segment : List Char) : Bool :=
  plainDots segment == ['.']

/-- The segment that stands for the place above. -/
def isDoubleDot (segment : List Char) : Bool :=
  plainDots segment == ['.', '.']

/-- A segment that names a drive: a letter with a colon or a bar. -/
def isDrive : List Char → Bool
  | [letter, sign] => letter.isAlpha && (sign == ':' || sign == '|')
  | _ => false

/-- Leaves the last segment, the nearest one first, unless it names a drive. -/
def leave : List (List Char) → List (List Char)
  | [] => []
  | segment :: above => if isDrive segment then segment :: above else above

/-- Resolves one more segment behind those that were resolved before, the nearest one first. -/
def resolveSegment (resolved : List (List Char)) (segment : List Char) : List (List Char) :=
  if isDoubleDot segment then leave resolved
  else if isSingleDot segment then resolved
  else percentEncode encodedInPath segment :: resolved

/-- The segments of a path.  If the last one is a place and not a name, an empty one takes its
place. -/
def resolve (segments : List (List Char)) : List (List Char) :=
  let resolved := segments.foldl resolveSegment []
  let endsInPlace := segments.getLast?.any fun segment => isDoubleDot segment || isSingleDot segment
  (if endsInPlace then [] :: resolved else resolved).reverse

/-- The written form of a path. -/
def pathText (segments : List (List Char)) : List Char :=
  segments.flatMap fun segment => '/' :: segment

/-- Reads a path whose segments are divided by slashes; the first one may be left out. -/
def readPath (isSlash : Char → Bool) (text : List Char) : List Char :=
  let slashed := text.map fun c => if isSlash c then '/' else c
  let body := if slashed.head? = some '/' then slashed.tail else slashed
  pathText (resolve (cutAt '/' body))

end WebSocketClient.Url
