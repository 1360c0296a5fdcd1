import Mathlib.Algebra.Group.Nat.Defs
import Mathlib.Data.List.TakeWhile
import WebSocketClient.Duration
import WebSocketClient.Proofs.Text

/-!
# Durations can be read from their texts

The text of a duration has a number and a unit, and the unit depends on the duration.  Counted in
its unit, every duration is a whole number and a fraction with a fixed count of places
(`Duration.text_eq`), so no case of the text is special.

The text is read from its ends.  The number goes as far as there are digits and points, and what is
left is the unit.  The whole number goes as far as there are digits.  The decimals have lost the
zeros at their end, but their count of places is known from the unit, so the fraction is known too
(`Duration.decimals_inj`).  Hence durations with the same text are the same (`Duration.text_inj`).
-/

namespace WebSocketClient.Duration

set_option autoImplicit false

open Text

/-! ## Decimals -/

/-- Zeros in front change no number. -/
theorem ofDigitChars_paddedDigits (places number : Nat) :
    Nat.ofDigitChars 10 (paddedDigits places number) 0 = number := by
  have zeros (count : Nat) : Nat.ofDigitChars 10 (List.replicate count '0') 0 = 0 := by
    induction count with
    | zero => rfl
    | succ count ih => exact ih
  have digits : (toString number).toList = Nat.toDigits 10 number := by
    rw [Nat.toString_eq_ofList_toDigits, String.toList_ofList]
  have split (first second : List Char) : Nat.ofDigitChars 10 (first ++ second) 0 =
      Nat.ofDigitChars 10 second (Nat.ofDigitChars 10 first 0) := List.foldl_append
  rw [paddedDigits, split, zeros, digits, Nat.ofDigitChars_ten_toDigits]

/-- A number that fits is padded to the full count of places. -/
theorem length_paddedDigits {places number : Nat} (fits : number < 10 ^ places)
    (positive : 0 < places) : (paddedDigits places number).length = places := by
  have short : (toString number).toList.length ≤ places := by
    rw [Nat.toString_eq_ofList_toDigits, String.toList_ofList,
      Nat.length_toDigits_le_iff (by decide) positive]
    exact fits
  rw [paddedDigits, List.length_append, List.length_replicate]
  omega

theorem isDigit_of_mem_paddedDigits {places number : Nat} :
    ∀ c ∈ paddedDigits places number, c.isDigit := by
  intro c member
  rcases List.mem_append.mp member with zero | member
  · rw [List.eq_of_mem_replicate zero]
    rfl
  · exact isDigit_of_mem_toString c member

/-- A text without the zeros at its beginning has lost as many zeros as it has become shorter. -/
theorem eq_zeros_append (text : List Char) : text =
    List.replicate (text.length - (text.dropWhile (· == '0')).length) '0' ++
      text.dropWhile (· == '0') := by
  have parts : text.takeWhile (· == '0') ++ text.dropWhile (· == '0') = text :=
    List.takeWhile_append_dropWhile
  have zeros : ∀ c ∈ text.takeWhile (· == '0'), c = '0' := by
    intro c member
    have zero : (c == '0') = true := List.mem_takeWhile_imp (p := (· == '0')) member
    exact eq_of_beq zero
  have lengths := congrArg List.length parts
  rw [List.length_append] at lengths
  have count : text.length - (text.dropWhile (· == '0')).length =
      (text.takeWhile (· == '0')).length := by omega
  rw [count, ← List.eq_replicate_of_mem zeros, parts]

/-- Texts of the same length that differ in nothing but zeros at their beginning are the same. -/
theorem eq_of_dropWhile_eq {first second : List Char} (length : first.length = second.length)
    (same : first.dropWhile (· == '0') = second.dropWhile (· == '0')) : first = second := by
  rw [eq_zeros_append first, eq_zeros_append second, same, length]

/-- **A fraction can be read from its decimals**, if the count of places is known. -/
theorem decimals_inj {places first second : Nat} (fits : first < 10 ^ places)
    (fitsOther : second < 10 ^ places) (same : decimals places first = decimals places second) :
    first = second := by
  unfold decimals at same
  split at same <;> split at same
  · rename_i zero zeroOther
    rw [zero, zeroOther]
  · cases same
  · cases same
  · rename_i nonzero nonzeroOther
    have positive : 0 < places := by
      refine Nat.pos_of_ne_zero ?_
      rintro rfl
      omega
    have trimmed := List.reverse_inj.mp (List.cons.inj same).2
    have length : (paddedDigits places first).reverse.length =
        (paddedDigits places second).reverse.length := by
      rw [List.length_reverse, List.length_reverse, length_paddedDigits fits positive,
        length_paddedDigits fitsOther positive]
    have padded := List.reverse_inj.mp (eq_of_dropWhile_eq length trimmed)
    rw [← ofDigitChars_paddedDigits places first, padded, ofDigitChars_paddedDigits]

/-! ## Quantities -/

/-- A character of a number with decimals. -/
def isFigure (c : Char) : Bool :=
  c.isDigit || c == '.'

theorem isFigure_of_mem_decimals {places fraction : Nat} :
    ∀ c ∈ decimals places fraction, isFigure c := by
  intro c member
  unfold decimals at member
  split at member
  · cases member
  · rcases List.mem_cons.mp member with rfl | member
    · rfl
    · have kept := (List.dropWhile_suffix _).subset (List.mem_reverse.mp member)
      have digit := isDigit_of_mem_paddedDigits c (List.mem_reverse.mp kept)
      rw [isFigure, digit]
      rfl

/-- Decimals begin with a point. -/
theorem stops_decimals (places fraction : Nat) : Stops Char.isDigit (decimals places fraction) := by
  unfold decimals
  split
  · exact .nil
  · exact .cons rfl _

/-- The parts of a quantity can be read from its text, if the unit begins with a letter. -/
theorem quantity_inj {whole wholeOther places placesOther fraction fractionOther : Nat}
    {unit unitOther : String} (letter : Stops isFigure unit.toList)
    (letterOther : Stops isFigure unitOther.toList)
    (same : quantity whole places fraction unit =
      quantity wholeOther placesOther fractionOther unitOther) :
    whole = wholeOther ∧ decimals places fraction = decimals placesOther fractionOther ∧
      unit = unitOther := by
  have figures (whole places fraction : Nat) :
      ∀ c ∈ (toString whole).toList ++ decimals places fraction, isFigure c := by
    intro c member
    rcases List.mem_append.mp member with digit | member
    · rw [isFigure, isDigit_of_mem_toString c digit]
      rfl
    · exact isFigure_of_mem_decimals c member
  have lists := congrArg String.toList same
  simp only [quantity, String.toList_append, String.toList_ofList] at lists
  obtain ⟨numbers, units⟩ :=
    eq_of_append_eq (figures _ _ _) (figures _ _ _) letter letterOther lists
  obtain ⟨wholes, fractions⟩ := eq_of_append_eq isDigit_of_mem_toString isDigit_of_mem_toString
    (stops_decimals _ _) (stops_decimals _ _) numbers
  exact ⟨toString_nat_inj.mp (String.toList_inj.mp wholes), fractions,
    String.toList_inj.mp units⟩

/-! ## Scales -/

/-- The units in which durations are counted. -/
inductive Scale where
  | seconds
  | milliseconds
  | microseconds
  | nanoseconds
deriving DecidableEq

namespace Scale

/-- The sign of a unit. -/
def unit : Scale → String
  | seconds => "s"
  | milliseconds => "ms"
  | microseconds => "µs"
  | nanoseconds => "ns"

/-- A unit is so many powers of ten of the smallest one. -/
def places : Scale → Nat
  | seconds => 9
  | milliseconds => 6
  | microseconds => 3
  | nanoseconds => 0

theorem stops_unit (scale : Scale) : Stops isFigure scale.unit.toList := by
  cases scale <;> exact .cons rfl _

theorem unit_inj {scale other : Scale} (same : scale.unit = other.unit) : scale = other := by
  revert same
  cases scale <;> cases other <;> decide

end Scale

/-- The unit of the text of a duration: the largest one of which there is at least one. -/
def scale (duration : Duration) : Scale :=
  if duration.seconds ≠ 0 then .seconds
  else if 1000000 ≤ duration.nanoseconds.val then .milliseconds
  else if 1000 ≤ duration.nanoseconds.val then .microseconds
  else .nanoseconds

/-- A duration in nanoseconds. -/
def total (duration : Duration) : Nat :=
  duration.seconds.toNat * 1000000000 + duration.nanoseconds.val

theorem total_inj {first second : Duration} (same : first.total = second.total) :
    first = second := by
  obtain ⟨seconds, nanoseconds⟩ := first
  obtain ⟨secondsOther, nanosecondsOther⟩ := second
  simp only [total] at same
  have whole : seconds = secondsOther := by
    rw [← UInt64.toNat_inj]
    omega
  have rest : nanoseconds = nanosecondsOther := by
    rw [Fin.ext_iff]
    omega
  rw [whole, rest]

/-- **The text of a duration is its number in its unit.** -/
theorem text_eq (duration : Duration) :
    duration.text = quantity (duration.total / 10 ^ duration.scale.places) duration.scale.places
      (duration.total % 10 ^ duration.scale.places) duration.scale.unit := by
  have below := duration.nanoseconds.isLt
  have seconds_eq (none : ¬ duration.seconds ≠ 0) : duration.seconds.toNat = 0 := by
    rw [Decidable.of_not_not none]
    rfl
  unfold text scale total
  dsimp only
  split
  · simp only [Scale.places, Scale.unit]
    congr 1 <;> omega
  · rename_i none
    rw [seconds_eq none]
    split
    · simp only [Scale.places, Scale.unit]
      congr 1 <;> omega
    · split
      · simp only [Scale.places, Scale.unit]
        congr 1 <;> omega
      · simp only [Scale.places, Scale.unit]
        congr 1 <;> omega

/-- **A duration can be read from its text.** -/
theorem text_inj {first second : Duration} : first.text = second.text ↔ first = second := by
  refine ⟨?_, congrArg text⟩
  intro same
  rw [text_eq, text_eq] at same
  obtain ⟨whole, fraction, unit⟩ :=
    quantity_inj first.scale.stops_unit second.scale.stops_unit same
  have scales : first.scale = second.scale := Scale.unit_inj unit
  rw [scales] at whole fraction
  have positive : 0 < 10 ^ second.scale.places := Nat.pow_pos (by decide)
  have fractions := decimals_inj (Nat.mod_lt _ positive) (Nat.mod_lt _ positive) fraction
  refine total_inj ?_
  rw [← Nat.div_add_mod first.total (10 ^ second.scale.places), whole, fractions,
    Nat.div_add_mod]

end WebSocketClient.Duration
