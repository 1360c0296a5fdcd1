/-!
# Punycode

Punycode writes a label with any characters in letters, digits and the hyphen.  The basic
characters come first, as they are; then, behind a hyphen, one number for each other character,
in ascending order of the characters.  A number says how many positions to skip since the last
insertion, counting one round through the text for every character value in between.

Numbers are written with the least significant digit first, in base 36 with a threshold for each
digit: a digit below its threshold is the last one.  The thresholds follow a bias that is adapted
after every number.  The decoder refuses numbers beyond 32 bits.
-/

namespace WebSocketClient.Idna.Punycode

set_option autoImplicit false

/-! ## Digits and thresholds -/

/-- The character of a digit. -/
def digitChar (digit : Nat) : Char :=
  if digit < 26 then Char.ofNat ('a'.toNat + digit) else Char.ofNat ('0'.toNat + (digit - 26))

/-- The digit of a character in lower case. -/
def digitValue? (c : Char) : Option Nat :=
  if 'a' ≤ c ∧ c ≤ 'z' then some (c.toNat - 'a'.toNat)
  else if '0' ≤ c ∧ c ≤ '9' then some (c.toNat - '0'.toNat + 26)
  else none

/-- The threshold of the digit at a place, which counts 36 for every digit before it. -/
def threshold (place bias : Nat) : Nat :=
  if place ≤ bias then 1 else min 26 (place - bias)

theorem one_le_threshold (place bias : Nat) : 1 ≤ threshold place bias := by
  unfold threshold
  split <;> omega

/-- Scales a difference down until it is small, and adds up the bias on the way. -/
def scaleDown (delta bias : Nat) : Nat :=
  if delta ≤ 455 then bias + 36 * delta / (delta + 38) else scaleDown (delta / 35) (bias + 36)
termination_by delta
decreasing_by omega

/-- The bias after a number: it depends on the number, on how many characters the text has now,
and on whether this was the first number. -/
def adapt (delta size : Nat) (first : Bool) : Nat :=
  let scaled := if first then delta / 700 else delta / 2
  scaleDown (scaled + scaled / size) 0

/-! ## Encoding -/

/-- The digits of a number, from a place on. -/
def encodeNumber (bias place number : Nat) : List Char :=
  let limit := threshold place bias
  if number < limit then [digitChar number]
  else
    digitChar (limit + (number - limit) % (36 - limit))
      :: encodeNumber bias (place + 36) ((number - limit) / (36 - limit))
termination_by number
decreasing_by
  have low := one_le_threshold place bias
  exact Nat.lt_of_le_of_lt (Nat.div_le_self _ _) (by omega)

/-- What the encoder keeps while it goes through the text for one character value. -/
structure Round where
  /-- The digits written so far. -/
  digits : List Char
  /-- Positions skipped since the last insertion. -/
  delta : Nat
  bias : Nat
  /-- Characters of the text written so far. -/
  size : Nat

/-- One character of the text in the round for one value: smaller ones are skipped, equal ones are
written, and larger ones are not there yet. -/
def Round.visit (basic value : Nat) (round : Round) (c : Char) : Round :=
  if c.toNat < value then { round with delta := round.delta + 1 }
  else if c.toNat = value then
    { digits := round.digits ++ encodeNumber round.bias 36 round.delta
      delta := 0
      bias := adapt round.delta (round.size + 1) (round.size == basic)
      size := round.size + 1 }
  else round

/-- The rounds for the given character values, in ascending order, after the value before them. -/
def encodeRounds (text : List Char) (basic : Nat) : List Nat → Nat → Round → Round
  | [], _, round => round
  | value :: values, next, round =>
    let skipped := { round with delta := round.delta + (value - next) * (round.size + 1) }
    let done := text.foldl (Round.visit basic value) skipped
    encodeRounds text basic values (value + 1) { done with delta := done.delta + 1 }

/-- The values of the characters that are not basic, ascending and each once. -/
def extendedValues (text : List Char) : List Nat :=
  (((text.map Char.toNat).filter (128 ≤ ·)).mergeSort (· ≤ ·)).eraseDups

/-- The Punycode of a text. -/
def encode (text : List Char) : List Char :=
  let basic := text.filter fun c => c.toNat < 128
  let start : Round := ⟨[], 0, 72, basic.length⟩
  let round := encodeRounds text basic.length (extendedValues text) 128 start
  (if basic = [] then [] else basic ++ ['-']) ++ round.digits

/-! ## Decoding -/

/-- The largest number that the decoder works with. -/
def maxNumber : Nat :=
  4294967295

/-- Reads one number, with the value and the weight that the digits before it have given it. -/
def decodeNumber? (bias place weight number : Nat) : List Char → Option (Nat × List Char)
  | [] => none
  | c :: rest => do
    let digit ← digitValue? c
    let sum := number + digit * weight
    if maxNumber < sum then none
    else
      let limit := threshold place bias
      if digit < limit then some (sum, rest)
      else if maxNumber < weight * (36 - limit) then none
      else decodeNumber? bias (place + 36) (weight * (36 - limit)) sum rest

/-- Reading a number uses up at least one character. -/
theorem length_lt_of_decodeNumber? {digits : List Char} :
    ∀ {bias place weight number value : Nat} {rest : List Char},
      decodeNumber? bias place weight number digits = some (value, rest) →
        rest.length < digits.length := by
  induction digits with
  | nil => intro _ _ _ _ _ _ h; simp [decodeNumber?] at h
  | cons c tail ih =>
    intro bias place weight number value rest h
    unfold decodeNumber? at h
    cases hd : digitValue? c with
    | none => simp [hd] at h
    | some digit =>
      simp only [hd, Option.bind_eq_bind, Option.bind_some] at h
      split at h
      · cases h
      · split at h
        · cases h; simp
        · split at h
          · cases h
          · exact Nat.lt_trans (ih h) (by simp)

/-- A character value, if there is a character for it. -/
def charOfValue? (value : Nat) : Option Char :=
  if value.isValidChar then some (Char.ofNat value) else none

/-- Inserts the characters that the numbers describe: `position` is where the last insertion left
off, and `value` is the character value that insertions have reached. -/
def insertAll? (text : List Char) (bias position value : Nat) (first : Bool)
    (digits : List Char) : Option (List Char) :=
  if digits = [] then some text
  else
    match _h : decodeNumber? bias 36 1 position digits with
    | none => none
    | some (next, rest) =>
      let size := text.length + 1
      let reached := value + next / size
      match charOfValue? reached with
      | none => none
      | some c =>
        let index := next % size
        insertAll? (text.take index ++ c :: text.drop index)
          (adapt (next - position) size first) (index + 1) reached false rest
termination_by digits.length
decreasing_by exact length_lt_of_decodeNumber? (by assumption)

/-- The basic characters and the digits of a Punycode text.  The last hyphen divides them, but a
hyphen at the very beginning does not. -/
def split (code : List Char) : List Char × List Char :=
  let digits := (code.reverse.takeWhile (· != '-')).reverse
  let basic := code.take (code.length - digits.length - 1)
  if basic = [] then ([], code) else (basic, digits)

/-- The text that a Punycode text stands for. -/
def decode? (code : List Char) : Option (List Char) :=
  let (basic, digits) := split code
  insertAll? basic 72 0 128 true digits

end WebSocketClient.Idna.Punycode
