/-!
# Durations and instants

A duration is a count of whole seconds and of the nanoseconds left over.  Its text uses the
largest unit whose integer part is not zero, and as many decimals as it needs: `1.5s`, `20ms`,
`1.001µs`, `0ns`.

An instant is a point on a clock that counts signed 64-bit seconds.  A duration cannot be added to
every instant: `Instant.add?` gives nothing when the sum lies beyond the last second of the clock.
-/

namespace WebSocketClient

set_option autoImplicit false

/-- A length of time, exact to the nanosecond. -/
structure Duration where
  seconds : UInt64
  /-- Nanoseconds beyond the whole seconds. -/
  nanoseconds : Fin 1000000000
deriving DecidableEq, Repr

namespace Duration

/-- A number of whole seconds. -/
def ofSeconds (seconds : UInt64) : Duration :=
  ⟨seconds, 0⟩

/-! ## Text -/

/-- Decimal digits, padded on the left with zeros to a given count. -/
def paddedDigits (places number : Nat) : List Char :=
  let digits := (toString number).toList
  List.replicate (places - digits.length) '0' ++ digits

/-- The decimals of a fraction that counts units of the last of `places` places: none for a whole
number, and no zero at the end. -/
def decimals (places fraction : Nat) : List Char :=
  if fraction = 0 then []
  else '.' :: ((paddedDigits places fraction).reverse.dropWhile (· == '0')).reverse

/-- A number with decimals, followed by its unit. -/
def quantity (whole places fraction : Nat) (unit : String) : String :=
  toString whole ++ String.ofList (decimals places fraction) ++ unit

/-- The text of a duration in the largest unit with a nonzero integer part. -/
def text (duration : Duration) : String :=
  let nanos := duration.nanoseconds.val
  if duration.seconds ≠ 0 then quantity duration.seconds.toNat 9 nanos "s"
  else if 1000000 ≤ nanos then quantity (nanos / 1000000) 6 (nanos % 1000000) "ms"
  else if 1000 ≤ nanos then quantity (nanos / 1000) 3 (nanos % 1000) "µs"
  else quantity nanos 0 0 "ns"

end Duration

/-- A point on a monotonic clock. -/
structure Instant where
  seconds : Int64
  /-- Nanoseconds beyond the whole seconds. -/
  nanoseconds : Fin 1000000000
deriving DecidableEq, Repr

namespace Instant

/-- The instant at which the clock shows zero. -/
def origin : Instant :=
  ⟨0, 0⟩

/-- The last whole second that the clock can show. -/
def lastSecond : Int :=
  9223372036854775807

/-- The instant a duration later, if the clock can show it. -/
def add? (instant : Instant) (duration : Duration) : Option Instant :=
  let nanos := instant.nanoseconds.val + duration.nanoseconds.val
  let seconds := instant.seconds.toInt + duration.seconds.toNat + (nanos / 1000000000 : Nat)
  if seconds ≤ lastSecond then
    some ⟨Int64.ofInt seconds, ⟨nanos % 1000000000, Nat.mod_lt _ (by decide)⟩⟩
  else none

end Instant

end WebSocketClient
