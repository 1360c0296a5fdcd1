import WebSocketClient.Unicode.Printable
import WebSocketClient.Unicode.GraphemeExtend

/-!
# Quoted text

A text is quoted by putting it between double quotes and escaping what would not survive there:
the quote and the backslash themselves, the tab, the two line ends and the null character by a
letter, and every other character that is not printable or that would combine with its neighbour
by its number, as in `\u{301}`.  The single quote stands for itself.
-/

namespace WebSocketClient.Text

set_option autoImplicit false

/-- The escape that spells out the number of a character. -/
def numericEscape (c : Char) : List Char :=
  '\\' :: 'u' :: '\x7b' :: (Nat.toDigits 16 c.toNat ++ ['\x7d'])

/-- A character as it is written between quotes. -/
def escape (c : Char) : List Char :=
  if c = '\x00' then ['\\', '0']
  else if c = '\t' then ['\\', 't']
  else if c = '\r' then ['\\', 'r']
  else if c = '\n' then ['\\', 'n']
  else if c = '\\' then ['\\', '\\']
  else if c = '"' then ['\\', '"']
  else if Unicode.isGraphemeExtend c || !Unicode.isPrintable c then numericEscape c
  else [c]

/-- A text between double quotes. -/
def quoted (text : String) : String :=
  String.ofList ('"' :: (text.toList.flatMap escape ++ ['"']))

end WebSocketClient.Text
