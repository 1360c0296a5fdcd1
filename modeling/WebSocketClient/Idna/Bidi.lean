import WebSocketClient.Unicode.BidiClass

/-!
# The rule for names in both directions

A domain name that contains a character from a script written from right to left must not look
like a different name when it is displayed.  Each of its labels then has a direction, given by its
first character, and may only contain characters that keep to it.
-/

namespace WebSocketClient.Idna

set_option autoImplicit false

open Unicode (BidiClass bidiClass)

/-- Classes that a label from right to left may contain. -/
def fitsRightToLeft : BidiClass → Bool
  | .rightToLeft | .arabicLetter | .arabicNumber | .europeanNumber | .europeanSeparator
  | .commonSeparator | .europeanTerminator | .otherNeutral | .boundaryNeutral
  | .nonspacingMark => true
  | _ => false

/-- Classes that a label from left to right may contain. -/
def fitsLeftToRight : BidiClass → Bool
  | .leftToRight | .europeanNumber | .europeanSeparator | .commonSeparator
  | .europeanTerminator | .otherNeutral | .boundaryNeutral | .nonspacingMark => true
  | _ => false

/-- Classes that may end a label from right to left. -/
def endsRightToLeft : BidiClass → Bool
  | .rightToLeft | .arabicLetter | .europeanNumber | .arabicNumber => true
  | _ => false

/-- Classes that may end a label from left to right. -/
def endsLeftToRight : BidiClass → Bool
  | .leftToRight | .europeanNumber => true
  | _ => false

/-- The class of the last character that takes space. -/
def lastClass? (classes : List BidiClass) : Option BidiClass :=
  classes.reverse.find? (· != .nonspacingMark)

/-- The rule for the classes of one label. -/
def keepsDirection (classes : List BidiClass) : Bool :=
  match classes.head? with
  | none => true
  | some .leftToRight =>
    classes.all fitsLeftToRight && (lastClass? classes).any endsLeftToRight
  | some .rightToLeft | some .arabicLetter =>
    classes.all fitsRightToLeft && (lastClass? classes).any endsRightToLeft
      && !(classes.contains .europeanNumber && classes.contains .arabicNumber)
  | some _ => false

/-- The rule for a name: it holds for every label as soon as one of them contains a character
written from right to left. -/
def isBidiName (labels : List (List Char)) : Bool :=
  if labels.any (·.any Unicode.runsRightToLeft) then
    labels.all fun label => keepsDirection (label.map bidiClass)
  else true

end WebSocketClient.Idna
