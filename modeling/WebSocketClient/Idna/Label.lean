import WebSocketClient.Idna.Punycode
import WebSocketClient.Unicode.DomainMapping
import WebSocketClient.Unicode.JoiningType
import WebSocketClient.Unicode.Mark
import WebSocketClient.Unicode.Normalization

/-!
# Labels of domain names

A domain name is a sequence of labels.  A label is given in its plain form, or in letters, digits
and hyphens behind `xn--`, as Punycode.  Both forms must agree: a label in Punycode is accepted
only if its plain form is one that mapping and normalizing would leave alone.

A plain form with characters beyond the first 128 must not begin with a combining mark, and an
invisible joiner may stand only where it changes how the characters around it are joined.
-/

namespace WebSocketClient.Idna

set_option autoImplicit false

open Unicode (DomainStatus domainStatus)

/-! ## Characters -/

/-- Characters that cannot be part of a domain name because a URL uses them in another way. -/
def isForbidden (c : Char) : Bool :=
  c.toNat ≤ 0x20 || c.toNat == 0x7f || "%#/:<>?@[\\]^|".toList.contains c

/-- One of the first 128 characters. -/
def isBasic (c : Char) : Bool :=
  c.toNat < 128

/-! ## Joiners -/

/-- The joiner that keeps two characters apart. -/
def nonJoiner : Char :=
  Char.ofNat 0x200c

/-- The joiner that ties two characters together. -/
def joiner : Char :=
  Char.ofNat 0x200d

/-- Whether the first character that is not transparent has one of two joining types. -/
def meets (first second : Unicode.JoiningType) (text : List Char) : Bool :=
  match (text.map Unicode.joiningType).find? (· != .transparent) with
  | some kind => kind == first || kind == second
  | none => false

/-- Whether every joiner has a reason to stand where it does.  `before` is what comes before the
text, the nearest character first. -/
def joinersFit (before : List Char) : List Char → Bool
  | [] => true
  | c :: rest =>
    let fits :=
      if c == nonJoiner then
        (before.head?.any Unicode.isVirama)
          || (meets .left .dual before && meets .right .dual rest)
      else if c == joiner then before.head?.any Unicode.isVirama
      else true
    fits && joinersFit (c :: before) rest

/-! ## Plain labels -/

/-- The longest plain label that is looked at. -/
def maxPlainLength : Nat :=
  1000

/-- The rules for a plain label with characters beyond the first 128. -/
def isPlainLabel (label : List Char) : Bool :=
  !(label.head?.any Unicode.isMark) && joinersFit [] label && label.length ≤ maxPlainLength

/-! ## Labels in Punycode -/

/-- What a label in Punycode begins with. -/
def punycodeMark : List Char :=
  ['x', 'n', '-', '-']

/-- The longest Punycode text that is decoded. -/
def maxCodeLength : Nat :=
  2000

/-- Whether mapping and normalizing leave a plain form alone, and it can be a single label. -/
def isSettled (label : List Char) : Bool :=
  label.all (fun c => domainStatus c == .valid && !isForbidden c && c != '.')
    && Unicode.normalize label == label

/-- The plain form of a label in Punycode, if that form is acceptable. -/
def plainOfCode? (code : List Char) : Option (List Char) :=
  if code.getLast?.all (· == '-') || maxCodeLength < code.length then none
  else
    match Punycode.decode? code with
    | none => none
    | some plain => if isSettled plain && isPlainLabel plain then some plain else none

/-! ## Reading a label -/

/-- A label in the two forms that matter: as it is looked at, and as it is looked up. -/
structure Label where
  plain : List Char
  ascii : List Char

/-- Reads a mapped and normalized label. -/
def Label.ofMapped? (label : List Char) : Option Label :=
  let marked := punycodeMark.isPrefixOf label
  if label.all isBasic then
    if marked then
      (plainOfCode? (label.drop punycodeMark.length)).map fun plain => ⟨plain, label⟩
    else some ⟨label, label⟩
  else if !marked && isPlainLabel label then
    some ⟨label, punycodeMark ++ Punycode.encode label⟩
  else none

end WebSocketClient.Idna
