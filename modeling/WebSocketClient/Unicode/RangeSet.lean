/-!
# Sets of code points

The property tables of Unicode are sets of code points given as sorted ranges.  A table is written
in lines of hexadecimal ranges, such as `41-5a aa b5`, and read once into an array; membership is
a binary search over it.
-/

namespace WebSocketClient.Unicode

set_option autoImplicit false

/-- The value of a hexadecimal digit in lower case; anything else counts as zero. -/
def hexDigit (c : Char) : Nat :=
  if '0' ≤ c ∧ c ≤ '9' then c.toNat - '0'.toNat
  else if 'a' ≤ c ∧ c ≤ 'f' then c.toNat - 'a'.toNat + 10
  else 0

/-- The number that hexadecimal digits write. -/
def hexNumber (digits : String) : Nat :=
  digits.toList.foldl (fun number c => 16 * number + hexDigit c) 0

/-- The first and the last code point of a written range. -/
def readRange (text : String) : Nat × Nat :=
  match text.splitOn "-" with
  | [first, last] => (hexNumber first, hexNumber last)
  | _ => (hexNumber text, hexNumber text)

/-- The entries of a table, which blanks divide within each line. -/
def entriesOf (lines : List String) : List String :=
  lines.flatMap fun line => line.splitOn " "

/-- A set of code points as sorted, disjoint ranges with both ends included. -/
structure RangeSet where
  /-- The ranges, in ascending order. -/
  ranges : Array (Nat × Nat)

namespace RangeSet

/-- The set that a table of ranges writes. -/
def ofLines (lines : List String) : RangeSet :=
  ⟨((entriesOf lines).map readRange).toArray⟩

/-- The search for a code point among the ranges from `low` up to `high`; every step halves the
distance, so `steps` need only be its logarithm. -/
def search (ranges : Array (Nat × Nat)) (point : Nat) : Nat → Nat → Nat → Bool
  | 0, _, _ => false
  | steps + 1, low, high =>
    if low < high then
      let middle := (low + high) / 2
      match ranges[middle]? with
      | none => false
      | some (first, last) =>
        if point < first then search ranges point steps low middle
        else if last < point then search ranges point steps (middle + 1) high
        else true
    else false

/-- Membership in a set of code points. -/
def contains (set : RangeSet) (point : Nat) : Bool :=
  search set.ranges point (set.ranges.size.log2 + 2) 0 set.ranges.size

end RangeSet

end WebSocketClient.Unicode
