import TraceArbiter.Json.Basic

/-!
# JSON text

The compact form: no blanks, members in order. In a string the quote, the backslash and the control
characters below U+0020 are escaped, with a letter where there is one and with four hexadecimal
digits otherwise; every other character stands for itself.
-/

namespace TraceArbiter.Json

def hexDigitChar (n : Nat) : Char :=
  Nat.digitChar n

def escapeChar (c : Char) : List Char :=
  if c = '"' then ['\\', '"']
  else if c = '\\' then ['\\', '\\']
  else if c = '\n' then ['\\', 'n']
  else if c = '\r' then ['\\', 'r']
  else if c = '\t' then ['\\', 't']
  else if c = '\x08' then ['\\', 'b']
  else if c = '\x0c' then ['\\', 'f']
  else if c.toNat < 0x20 then
    ['\\', 'u', '0', '0', hexDigitChar (c.toNat / 16), hexDigitChar (c.toNat % 16)]
  else [c]

/-- A literal without text is written as an escape that leaves a surrogate unpaired. -/
def printText : Text → List Char
  | some s => '"' :: (s.toList.flatMap escapeChar ++ ['"'])
  | none => "\"\\ud800\"".toList

def printNumber (n : Number) : List Char :=
  (if n.negative then ['-'] else []) ++ n.whole.repr.toList ++
    (if n.fraction.isEmpty then [] else '.' :: n.fraction) ++
    match n.exponent with
    | some e => 'e' :: e.repr.toList
    | none => []

mutual

def printChars : Json → List Char
  | .null => "null".toList
  | .bool true => "true".toList
  | .bool false => "false".toList
  | .number n => printNumber n
  | .string text => printText text
  | .array [] => ['[', ']']
  | .array (item :: items) => '[' :: (printChars item ++ printItems items)
  | .object [] => ['{', '}']
  | .object ((key, value) :: members) =>
    '{' :: (printText key ++ ':' :: (printChars value ++ printMembers members))

/-- The items behind the first, and the closing bracket. -/
def printItems : List Json → List Char
  | [] => [']']
  | item :: items => ',' :: (printChars item ++ printItems items)

/-- The members behind the first, and the closing brace. -/
def printMembers : List (Text × Json) → List Char
  | [] => ['}']
  | (key, value) :: members =>
    ',' :: (printText key ++ ':' :: (printChars value ++ printMembers members))

end

def print (value : Json) : String :=
  String.ofList value.printChars

end TraceArbiter.Json
