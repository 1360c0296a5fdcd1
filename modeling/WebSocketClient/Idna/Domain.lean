import WebSocketClient.Idna.Bidi
import WebSocketClient.Idna.Label

/-!
# Domain names in basic characters

`toAscii?` turns a domain name into the form in which it is looked up.  The characters are mapped
and the text is normalized; forbidden characters make the name unacceptable; then every label is
read, and the name as a whole must keep to the rule for both directions.  A name in small basic
characters without labels in Punycode is its own form.
-/

namespace WebSocketClient.Idna

set_option autoImplicit false

open Unicode (domainStatus)

/-- The characters that a character is mapped to, if it has a place in a domain name. -/
def mapChar? (c : Char) : Option (List Char) :=
  match domainStatus c with
  | .valid => some [c]
  | .ignored => some []
  | .mapped target => some target
  | .disallowed => none

/-- The mapped text. -/
def mapText? (text : List Char) : Option (List Char) :=
  (text.mapM mapChar?).map List.flatten

/-- Puts a character before a name that is already cut into labels. -/
def consLabels (c : Char) (labels : List (List Char)) : List (List Char) :=
  if c = '.' then [] :: labels
  else match labels with
    | [] => [[c]]
    | label :: others => (c :: label) :: others

/-- The labels of a name, which full stops divide. -/
def labelsOf (name : List Char) : List (List Char) :=
  name.foldr consLabels [[]]

/-- The form in which a domain name is looked up. -/
def toAscii? (name : List Char) : Option (List Char) := do
  let mapped ← mapText? name
  let text := Unicode.normalize mapped
  if text.any isForbidden then none
  else
    let labels ← (labelsOf text).mapM Label.ofMapped?
    if isBidiName (labels.map Label.plain) then
      return List.intercalate ['.'] (labels.map Label.ascii)
    else none

end WebSocketClient.Idna
