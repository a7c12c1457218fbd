import TraceArbiter.Json.Basic

/-!
# The range of numbers

A number that is stored is held as a binary number of 64 bits, so it must not be too large for one.
It is put together from two of them: the leading digits as far as they fit into a machine word, and
the power of ten that is left to multiply with. Both are rounded before they are multiplied, and the
product once more, so the edge of the range is a little off from where one rounding would put it.
Everything is worked out exactly on natural numbers.
-/

namespace TraceArbiter.Json

/-- Takes digits into a word from the left, up to the first that makes it too large. Gives the word
and the digits that are left out. -/
def takeDigits (word : Nat) : List Char → Nat × List Char
  | [] => (word, [])
  | digit :: digits =>
    let longer := 10 * word + (digit.toNat - '0'.toNat)
    if longer < UInt64.size then takeDigits longer digits else (word, digit :: digits)

/-- The leading digits of a number as a word, and the power of ten to multiply them with. A digit of
the whole part that is left out counts in the power; a digit of the fraction that is left out does
not count at all. -/
def Number.leading (n : Number) : Nat × Int :=
  let (whole, omitted) := takeDigits 0 n.whole.repr.toList
  let (word, dropped) := takeDigits whole n.fraction
  let places := n.fraction.length - dropped.length
  (word, n.exponent.getD 0 + omitted.length - places)

/-- The nearest number of 53 binary digits. A half goes to the even neighbour. -/
def roundBinary (n : Nat) : Nat :=
  let unit := Nat.pow 2 (n.log2 - 52)
  let quotient := n / unit
  let rest := 2 * (n % unit)
  if unit < rest || (unit = rest && quotient % 2 = 1) then (quotient + 1) * unit
  else quotient * unit

/-- Values from here on round past the largest binary number of 64 bits. -/
def overflowBound : Nat :=
  Nat.pow 2 1024 - Nat.pow 2 970

/-- The largest power of ten that is a binary number of 64 bits when rounded. -/
def largestPower : Nat :=
  308

/-- Whether the number is in the range. Dividing by a power of ten never leaves it. -/
def Number.isFinite (n : Number) : Bool :=
  let (word, power) := n.leading
  if word = 0 || power ≤ 0 then true
  else if largestPower < power then false
  else roundBinary word * roundBinary (Nat.pow 10 power.toNat) < overflowBound

end TraceArbiter.Json
