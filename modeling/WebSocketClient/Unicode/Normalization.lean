import WebSocketClient.Unicode.CombiningClass
import WebSocketClient.Unicode.Decomposition

/-!
# Composed normal form

Two texts that differ only in how an accented letter is written, as one character or as a letter
with a mark, have one composed form.  It is reached in three steps: every character is decomposed
(`decompose`), the marks behind each starter are put into the order of their classes (`reorder`),
and each starter takes in the marks that form one character with it (`compose`).

The syllables of Hangul are decomposed and composed by arithmetic.
-/

namespace WebSocketClient.Unicode

set_option autoImplicit false

/-! ## Decomposition -/

/-- The letters of a Hangul syllable, given by its position among the syllables. -/
def hangulLetters (position : Nat) : List Char :=
  let leading := Char.ofNat (0x1100 + position / 588)
  let vowel := Char.ofNat (0x1161 + position % 588 / 28)
  if position % 28 = 0 then [leading, vowel]
  else [leading, vowel, Char.ofNat (0x11a7 + position % 28)]

/-- The full canonical decomposition of a character. -/
def decompose (c : Char) : List Char :=
  if c.toNat < 0xc0 then [c]
  else if 0xac00 ≤ c.toNat ∧ c.toNat ≤ 0xd7a3 then hangulLetters (c.toNat - 0xac00)
  else decompositions[c.toNat]?.getD [c]

/-! ## Order of marks -/

/-- Puts a character before a text whose marks are in order: a mark moves behind the marks of lower
classes. -/
def insertMark (c : Char) : List Char → List Char
  | [] => [c]
  | d :: rest =>
    if combiningClass c ≠ 0 ∧ combiningClass d ≠ 0 ∧ combiningClass d < combiningClass c then
      d :: insertMark c rest
    else c :: d :: rest

/-- Puts the marks behind each starter into the order of their classes. -/
def reorder (text : List Char) : List Char :=
  text.foldr insertMark []

/-! ## Composition -/

/-- A map from pairs of characters to the character they form. -/
abbrev PairMap := Std.HashMap (Nat × Nat) Char

/-- The character that a starter forms with the characters behind it, as far as the pairs known so
far tell. -/
def foldPairs (pairs : PairMap) (first : Char) (others : List Char) : Char :=
  others.foldl (fun c d => pairs[(c.toNat, d.toNat)]?.getD c) first

/-- Adds the pair that a decomposition undoes: all of it but the last character, and the last. -/
def addPair (pairs : PairMap) (entry : Nat × List Char) : PairMap :=
  match entry.2, entry.2.getLast? with
  | first :: second :: others, some last =>
    let head := foldPairs pairs first (second :: others).dropLast
    pairs.insert (head.toNat, last.toNat) (Char.ofNat entry.1)
  | _, _ => pairs

/-- The pairs of characters that form one character.  Short decompositions come first, because the
longer ones build on them. -/
def compositions : PairMap :=
  let entries := decompositionList.filter fun entry => !compositionExclusions.contains entry.1
  let shorter (a b : Nat × List Char) : Bool := a.2.length ≤ b.2.length
  (entries.mergeSort shorter).foldl addPair {}

/-- The Hangul syllable that two characters form: a leading letter with a vowel, or a syllable
without a trailing letter with one. -/
def hangulSyllable? (c d : Char) : Option Char :=
  if 0x1100 ≤ c.toNat ∧ c.toNat ≤ 0x1112 ∧ 0x1161 ≤ d.toNat ∧ d.toNat ≤ 0x1175 then
    some (Char.ofNat (0xac00 + (c.toNat - 0x1100) * 588 + (d.toNat - 0x1161) * 28))
  else if 0xac00 ≤ c.toNat ∧ c.toNat ≤ 0xd7a3 ∧ (c.toNat - 0xac00) % 28 = 0
      ∧ 0x11a8 ≤ d.toNat ∧ d.toNat ≤ 0x11c2 then
    some (Char.ofNat (c.toNat + (d.toNat - 0x11a7)))
  else none

/-- Whether a character can take in others: of the first 128 only letters and the signs of
comparison do. -/
def takesMarks (c : Char) : Bool :=
  128 ≤ c.toNat || c.isAlpha || "<=>".toList.contains c

/-- The character that two characters form, if they do.  Nothing below `300` is ever taken in. -/
def composePair? (c d : Char) : Option Char :=
  if takesMarks c && 0x300 ≤ d.toNat then
    match hangulSyllable? c d with
    | some syllable => some syllable
    | none => compositions[(c.toNat, d.toNat)]?
  else none

/-- Composes what follows a starter.  `marks` are the marks that the starter could not take in, in
order; a character behind a mark of the same or a higher class is out of reach. -/
def composeFrom (starter : Char) (marks : List Char) : List Char → List Char
  | [] => starter :: marks
  | c :: rest =>
    let blocked := match marks.getLast? with
      | some mark => decide (combiningClass c ≤ combiningClass mark)
      | none => false
    match if blocked then none else composePair? starter c with
    | some composed => composeFrom composed marks rest
    | none =>
      if combiningClass c = 0 then starter :: (marks ++ composeFrom c [] rest)
      else composeFrom starter (marks ++ [c]) rest

/-- Lets every starter take in the marks it forms one character with. -/
def compose : List Char → List Char
  | [] => []
  | c :: rest => if combiningClass c = 0 then composeFrom c [] rest else c :: compose rest

/-- The composed normal form of a text; a text of the first 128 characters is its own. -/
def normalize (text : List Char) : List Char :=
  if text.all fun c => c.toNat < 128 then text
  else compose (reorder (text.flatMap decompose))

end WebSocketClient.Unicode
