import Mathlib.Data.Nat.Init
import Std.Data.String.ToInt
import WebSocketClient.Text.Quoted

/-!
# Texts that can be read back

A text that was put together from parts can be taken apart again if it shows where a part ends.
The plainest way to show it is a stop, a character that does not occur in the part
(`Text.eq_of_append_eq`).  The digits of a number stop at whatever is no digit.

A quoted text shows where each of its characters ends.  An escape begins with a backslash, which
never stands for itself.  It is one of a few with a single letter (`Text.shortEscapes`), or the
number of the character up to a closing brace.  So no escape is the beginning of another one, and a
text can be read from its quoted form (`Text.quoted_inj`).
-/

namespace WebSocketClient.Text

set_option autoImplicit false

/-! ## Reading up to a stop -/

/-- A text that does not begin with one of the given characters. -/
def Stops (inner : Char → Bool) (text : List Char) : Prop :=
  ∀ c ∈ text.head?, inner c = false

section

variable {inner : Char → Bool}

theorem Stops.nil : Stops inner [] := by
  intro c member
  cases member

theorem Stops.cons {c : Char} (stop : inner c = false) (text : List Char) :
    Stops inner (c :: text) := by
  intro first member
  cases member
  exact stop

theorem Stops.takeWhile_eq {text : List Char} (stops : Stops inner text) :
    text.takeWhile inner = [] := by
  cases text with
  | nil => rfl
  | cons c text =>
      refine List.takeWhile_cons_of_neg ?_
      rw [stops c rfl]
      exact Bool.false_ne_true

theorem Stops.dropWhile_eq {text : List Char} (stops : Stops inner text) :
    text.dropWhile inner = text := by
  cases text with
  | nil => rfl
  | cons c text =>
      refine List.dropWhile_cons_of_neg ?_
      rw [stops c rfl]
      exact Bool.false_ne_true

theorem stops_dropWhile (text : List Char) : Stops inner (text.dropWhile inner) := by
  intro c first
  have stopped := List.head?_dropWhile_not inner text
  rw [first] at stopped
  exact stopped

/-- A text stops where its first part does, or where the second does if there is no first. -/
theorem Stops.append {first rest : List Char} (stops : Stops inner first)
    (later : first = [] → Stops inner rest) : Stops inner (first ++ rest) := by
  cases first with
  | nil => exact later rfl
  | cons c first => exact .cons (stops c rfl) _

theorem Stops.of_append {first rest : List Char} (stops : Stops inner (first ++ rest)) :
    Stops inner first := by
  cases first with
  | nil => exact .nil
  | cons c first => exact .cons (stops c rfl) first

/-- A part and what follows it are read off a text in which a stop is between them. -/
theorem Stops.takeWhile_append {first rest : List Char} (stops : Stops inner rest)
    (within : ∀ c ∈ first, inner c) : (first ++ rest).takeWhile inner = first := by
  rw [List.takeWhile_append_of_pos within, stops.takeWhile_eq, List.append_nil]

theorem Stops.dropWhile_append {first rest : List Char} (stops : Stops inner rest)
    (within : ∀ c ∈ first, inner c) : (first ++ rest).dropWhile inner = rest := by
  rw [List.dropWhile_append_of_pos within, stops.dropWhile_eq]

/-- The part in front of a stop can be read off. -/
theorem eq_of_append_eq {first second rest other : List Char} (within : ∀ c ∈ first, inner c)
    (withinOther : ∀ c ∈ second, inner c) (stops : Stops inner rest)
    (stopsOther : Stops inner other) (same : first ++ rest = second ++ other) :
    first = second ∧ rest = other := by
  have read := congrArg (List.takeWhile inner) same
  rw [stops.takeWhile_append within, stopsOther.takeWhile_append withinOther] at read
  subst read
  exact ⟨rfl, List.append_cancel_left same⟩

end

/-! ## Numbers -/

theorem isDigit_of_mem_toString {number : Nat} :
    ∀ c ∈ (toString number).toList, c.isDigit := by
  intro c member
  rw [Nat.toString_eq_ofList_toDigits, String.toList_ofList] at member
  exact Nat.isDigit_of_mem_toDigits (by decide) (by decide) member

theorem toString_nat_inj {first second : Nat} :
    toString first = toString second ↔ first = second := by
  rw [Nat.toString_eq_repr, Nat.toString_eq_repr, Nat.repr_inj]

theorem toString_int_inj {first second : Int} :
    toString first = toString second ↔ first = second := by
  rw [Int.toString_eq_repr, Int.toString_eq_repr, Int.repr_inj]

/-- A whole number is written without a blank. -/
theorem ne_blank_of_mem_toString {number : Int} :
    ∀ c ∈ (toString number).toList, (c != ' ') = true := by
  intro c member
  have digits {natural : Nat} (member : c ∈ natural.repr.toList) : (c != ' ') = true := by
    have digit := isDigit_of_mem_toString c member
    refine bne_iff_ne.mpr ?_
    rintro rfl
    cases digit
  rw [Int.toString_eq_repr, Int.repr_eq_if] at member
  split at member
  · exact digits member
  · rw [String.toList_append] at member
    rcases List.mem_append.mp member with sign | member
    · rw [show "-".toList = ['-'] from rfl] at sign
      rw [List.mem_singleton.mp sign]
      rfl
    · exact digits member

/-! ## Hexadecimal numbers -/

/-- A hexadecimal number is written in hexadecimal digits. -/
theorem exists_digitChar_of_mem {number : Nat} :
    ∀ c ∈ Nat.toDigits 16 number, ∃ digit < 16, c = Nat.digitChar digit := by
  induction number using Nat.strong_induction_on with
  | _ number ih =>
      intro c member
      rw [Nat.toDigits_eq_if (by decide)] at member
      split at member
      · rename_i small
        exact ⟨number, small, List.mem_singleton.mp member⟩
      · rcases List.mem_append.mp member with member | member
        · exact ih _ (by omega) c member
        · exact ⟨number % 16, by omega, List.mem_singleton.mp member⟩

theorem digitChar_inj : ∀ first < 16, ∀ second < 16,
    Nat.digitChar first = Nat.digitChar second → first = second := by
  decide

theorem digitChar_ne_brace : ∀ digit < 16, (Nat.digitChar digit != '\x7d') = true := by
  decide

theorem toDigits_inj {first second : Nat}
    (same : Nat.toDigits 16 first = Nat.toDigits 16 second) : first = second := by
  induction first using Nat.strong_induction_on generalizing second with
  | _ first ih =>
      rw [Nat.toDigits_eq_if (by decide), Nat.toDigits_eq_if (n := second) (by decide)] at same
      split at same <;> split at same
      · rename_i small smallOther
        exact digitChar_inj first small second smallOther (List.cons.inj same).1
      · obtain ⟨none, -⟩ := List.append_inj' (show [] ++ [_] = _ from same) rfl
        exact absurd none.symm Nat.toDigits_ne_nil
      · obtain ⟨none, -⟩ := List.append_inj' (show _ = [] ++ [_] from same) rfl
        exact absurd none Nat.toDigits_ne_nil
      · obtain ⟨high, low⟩ := List.append_inj' same rfl
        have quotient := ih (first / 16) (by omega) high
        have remainder := digitChar_inj _ (by omega) _ (by omega) (List.cons.inj low).1
        omega

/-! ## Quoted texts -/

/-- The characters whose escapes have a single letter, with their letters. -/
def shortEscapes : List (Char × Char) :=
  [('\x00', '0'), ('\t', 't'), ('\r', 'r'), ('\n', 'n'), ('\\', '\\'), ('"', '"')]

/-- The ways in which a character can be written between quotes. -/
inductive Escaped (c : Char) : List Char → Prop where
  | short {letter : Char} (listed : (c, letter) ∈ shortEscapes) : Escaped c ['\\', letter]
  | numeric : Escaped c (numericEscape c)
  | plain (other : c ≠ '\\') : Escaped c [c]

theorem escaped_escape (c : Char) : Escaped c (escape c) := by
  have short {special letter : Char} (same : c = special)
      (listed : (special, letter) ∈ shortEscapes) : Escaped c ['\\', letter] := by
    rw [same]
    exact .short listed
  unfold escape
  split
  · exact short ‹_› (by decide)
  split
  · exact short ‹_› (by decide)
  split
  · exact short ‹_› (by decide)
  split
  · exact short ‹_› (by decide)
  split
  · exact short ‹_› (by decide)
  rename_i other
  split
  · exact short ‹_› (by decide)
  split
  · exact .numeric
  · exact .plain other

/-- A letter belongs to one character, and none of the letters begins a numeric escape. -/
theorem shortEscapes_inj : ∀ entry ∈ shortEscapes, entry.2 ≠ 'u' ∧
    ∀ other ∈ shortEscapes, entry.2 = other.2 → entry.1 = other.1 := by
  decide

namespace Escaped

variable {c d : Char} {written writtenOther rest other : List Char}

theorem ne_nil (escaped : Escaped c written) : written ≠ [] := by
  cases escaped <;> exact List.cons_ne_nil _ _

/-- **A character can be read from the way it is written**, whatever follows. -/
theorem eq_of_append_eq (escaped : Escaped c written) (escapedOther : Escaped d writtenOther)
    (same : written ++ rest = writtenOther ++ other) : c = d ∧ rest = other := by
  cases escaped with
  | short listed =>
      obtain ⟨unlike, unique⟩ := shortEscapes_inj _ listed
      cases escapedOther with
      | short listedOther =>
          obtain ⟨letters, rests⟩ := List.cons.inj (List.cons.inj same).2
          exact ⟨unique _ listedOther letters, rests⟩
      | numeric => exact absurd (List.cons.inj (List.cons.inj same).2).1 unlike
      | plain backslash => exact absurd (List.cons.inj same).1.symm backslash
  | numeric =>
      cases escapedOther with
      | short listedOther =>
          obtain ⟨unlike, -⟩ := shortEscapes_inj _ listedOther
          exact absurd (List.cons.inj (List.cons.inj same).2).1.symm unlike
      | numeric =>
          have digits (number : Nat) : ∀ c ∈ Nat.toDigits 16 number, (c != '\x7d') = true := by
            intro c member
            obtain ⟨digit, small, rfl⟩ := exists_digitChar_of_mem c member
            exact digitChar_ne_brace digit small
          simp only [numericEscape, List.cons_append, List.cons.injEq, true_and,
            List.append_assoc, List.nil_append] at same
          obtain ⟨numbers, rests⟩ := Text.eq_of_append_eq (digits c.toNat) (digits d.toNat)
            (.cons rfl rest) (.cons rfl other) same
          exact ⟨Char.toNat_inj.mp (toDigits_inj numbers), (List.cons.inj rests).2⟩
      | plain backslash => exact absurd (List.cons.inj same).1.symm backslash
  | plain backslash =>
      cases escapedOther with
      | short => exact absurd (List.cons.inj same).1 backslash
      | numeric => exact absurd (List.cons.inj same).1 backslash
      | plain => exact List.cons.inj same

end Escaped

/-- Characters can be read from their escapes, one after another. -/
theorem flatMap_escape_inj {first second : List Char}
    (same : first.flatMap escape = second.flatMap escape) : first = second := by
  have ends {c : Char} {text : List Char} (none : (c :: text).flatMap escape = []) : False := by
    rw [List.flatMap_cons] at none
    exact (escaped_escape c).ne_nil (List.append_eq_nil_iff.mp none).1
  induction first generalizing second with
  | nil =>
      cases second with
      | nil => rfl
      | cons d second => exact (ends same.symm).elim
  | cons c first ih =>
      cases second with
      | nil => exact (ends same).elim
      | cons d second =>
          rw [List.flatMap_cons, List.flatMap_cons] at same
          obtain ⟨rfl, rests⟩ := (escaped_escape c).eq_of_append_eq (escaped_escape d) same
          rw [ih rests]

/-- **A text can be read from its quoted form.** -/
theorem quoted_inj {first second : String} : quoted first = quoted second ↔ first = second := by
  refine ⟨?_, congrArg quoted⟩
  intro same
  obtain ⟨-, escapes⟩ := List.cons.inj (String.ofList_injective same)
  exact String.toList_inj.mp (flatMap_escape_inj (List.append_cancel_right escapes))

end WebSocketClient.Text
