/-!
# JSON values

A value keeps what a reader of it may have to tell apart: the members of an object in the order
they were written, repetitions included; numbers as they were spelled, since a whole number and the
same number with a fraction are not interchangeable; and strings whose escapes do not make up
Unicode text.
-/

namespace TraceArbiter

/-- A string literal's text, or `none` when its escapes leave a surrogate unpaired. -/
abbrev Json.Text := Option String

/-- A number as spelled: `whole` before the point, the digits of `fraction` behind it, and the
power of ten to multiply with. -/
structure Json.Number where
  negative : Bool
  whole : Nat
  fraction : List Char
  exponent : Option Int
  deriving DecidableEq

inductive Json where
  | null
  | bool (value : Bool)
  | number (value : Json.Number)
  | string (text : Json.Text)
  | array (items : List Json)
  | object (members : List (Json.Text × Json))
  deriving Inhabited

namespace Json

def ofNat (n : Nat) : Json :=
  .number ⟨false, n, [], none⟩

def ofString (s : String) : Json :=
  .string (some s)

def ofFields (fields : List (String × Json)) : Json :=
  .object (fields.map fun field => (some field.1, field.2))

/-- The natural number that was spelled with digits alone. -/
def Number.natural? (n : Number) : Option Nat :=
  if !n.negative && n.fraction.isEmpty && n.exponent.isNone then some n.whole else none

end Json

end TraceArbiter
