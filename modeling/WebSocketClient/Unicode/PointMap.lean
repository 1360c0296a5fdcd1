import Std.Data.HashMap
import WebSocketClient.Unicode.RangeSet

/-!
# Maps on code points

The property tables that give a code point a value are written in lines as well: entries separated
by blanks, each with a key and a value around a colon, and code points in hexadecimal.  A sequence
of code points is written with full stops between them.
-/

namespace WebSocketClient.Unicode

set_option autoImplicit false

/-- A map on code points. -/
abbrev PointMap (α : Type) := Std.HashMap Nat α

/-- The two sides of a written entry. -/
def readEntry (entry : String) : Option (String × String) :=
  match entry.splitOn ":" with
  | [key, value] => some (key, value)
  | _ => none

/-- A written sequence of code points. -/
def readPoints (text : String) : List Nat :=
  (text.splitOn ".").map hexNumber

/-- The characters that a written sequence of code points stands for. -/
def readChars (text : String) : List Char :=
  (readPoints text).map Char.ofNat

/-- The code points of a range. -/
def pointsOf (range : Nat × Nat) : List Nat :=
  (List.range (range.2 + 1 - range.1)).map (range.1 + ·)

end WebSocketClient.Unicode
