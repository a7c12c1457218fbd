/-!
# Numerals

Unsigned 64-bit numbers as control files and settings spell them: an optional single plus sign,
then at least one ASCII digit, and a value below `2 ^ 64`. Leading zeros are allowed and nothing
else is.
-/

namespace TraceArbiter.Text

/-- The number as a machine word, if it fits. -/
def word? (n : Nat) : Option UInt64 :=
  if h : n < UInt64.size then some (UInt64.ofNatLT n h) else none

/-- The value of a non-empty run of decimal digits. -/
def decimal? (digits : List Char) : Option Nat :=
  if !digits.isEmpty && digits.all Char.isDigit then some (Nat.ofDigitChars 10 digits 0) else none

def hexDigit? (c : Char) : Option Nat :=
  if c.isDigit then some (c.toNat - '0'.toNat)
  else if 'a' ≤ c ∧ c ≤ 'f' then some (c.toNat - 'a'.toNat + 10)
  else if 'A' ≤ c ∧ c ≤ 'F' then some (c.toNat - 'A'.toNat + 10)
  else none

/-- The value of a non-empty run of hexadecimal digits of either case. -/
def hexadecimal? (digits : List Char) : Option Nat :=
  if digits.isEmpty then none
  else (digits.mapM hexDigit?).map fun values => values.foldl (fun n d => 16 * n + d) 0

/-- What follows an optional plus sign. -/
def dropPlus : List Char → List Char
  | '+' :: digits => digits
  | digits => digits

/-- The word that a decimal numeral spells. -/
def readDecimal (s : String) : Option UInt64 :=
  (decimal? (dropPlus s.toList)).bind word?

/-- The word that a hexadecimal numeral without its `0x` spells. -/
def readHexadecimal (s : String) : Option UInt64 :=
  (hexadecimal? (dropPlus s.toList)).bind word?

/-- The shortest decimal numeral of a word. -/
def writeDecimal (n : UInt64) : String :=
  n.toNat.repr

end TraceArbiter.Text
