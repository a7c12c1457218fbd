import TraceArbiter.Json.Basic
import TraceArbiter.Text.Numeral

/-!
# Reading JSON text

The grammar is strict: four blank characters, no comments, no trailing commas, no leading zeros, no
raw control characters in strings. A step takes the characters that are left and gives a value and
what is left behind it, or `none`.
-/

namespace TraceArbiter.Json

def isBlank (c : Char) : Bool :=
  c = ' ' || c = '\n' || c = '\r' || c = '\t'

def skipBlanks (cs : List Char) : List Char :=
  cs.dropWhile isBlank

/-! ### Strings -/

/-- The character for a letter behind a backslash. -/
def unescape? : Char → Option Char
  | '"' => some '"'
  | '\\' => some '\\'
  | '/' => some '/'
  | 'b' => some '\x08'
  | 'f' => some '\x0c'
  | 'n' => some '\n'
  | 'r' => some '\r'
  | 't' => some '\t'
  | _ => none

/-- The code unit that four hexadecimal digits spell. -/
def codeUnit? (a b c d : Char) : Option Nat :=
  TraceArbiter.Text.hexadecimal? [a, b, c, d]

/-- The code points up to the closing quote, surrogates that were escaped among them. -/
def readPoints : List Char → Option (List Nat × List Char)
  | '"' :: rest => some ([], rest)
  | '\\' :: 'u' :: a :: b :: c :: d :: rest =>
    match codeUnit? a b c d, readPoints rest with
    | some unit, some (points, rest) => some (unit :: points, rest)
    | _, _ => none
  | '\\' :: letter :: rest =>
    match unescape? letter, readPoints rest with
    | some c, some (points, rest) => some (c.toNat :: points, rest)
    | _, _ => none
  | c :: rest =>
    if c = '\\' || c.toNat < 0x20 then none
    else (readPoints rest).map fun (points, rest) => (c.toNat :: points, rest)
  | [] => none

def isHighSurrogate (n : Nat) : Bool :=
  0xD800 ≤ n && n < 0xDC00

def isLowSurrogate (n : Nat) : Bool :=
  0xDC00 ≤ n && n < 0xE000

/-- The text, when each high surrogate is directly followed by a low one and no low one stands
alone. A pair spells one character past U+FFFF. -/
def pairPoints? : List Nat → Option (List Char)
  | [] => some []
  | [n] => if isHighSurrogate n || isLowSurrogate n then none else some [Char.ofNat n]
  | n :: m :: rest =>
    if isHighSurrogate n then
      if isLowSurrogate m then
        (pairPoints? rest).map
          (Char.ofNat (0x10000 + (n - 0xD800) * 0x400 + (m - 0xDC00)) :: ·)
      else none
    else if isLowSurrogate n then none
    else (pairPoints? (m :: rest)).map (Char.ofNat n :: ·)

/-- A string literal behind its opening quote. -/
def readText (cs : List Char) : Option (Text × List Char) :=
  (readPoints cs).map fun (points, rest) => ((pairPoints? points).map String.ofList, rest)

/-! ### Numbers -/

/-- The longest run of digits in front, if there is one. -/
def readDigits (cs : List Char) : Option (List Char × List Char) :=
  let digits := cs.takeWhile Char.isDigit
  if digits.isEmpty then none else some (digits, cs.dropWhile Char.isDigit)

def readWhole (cs : List Char) : Option (Nat × List Char) :=
  match readDigits cs with
  | some (['0'], rest) => some (0, rest)
  | some ('0' :: _, _) => none
  | some (digits, rest) => some (Nat.ofDigitChars 10 digits 0, rest)
  | none => none

def readFraction : List Char → Option (List Char × List Char)
  | '.' :: rest => readDigits rest
  | rest => some ([], rest)

def readExponent : List Char → Option (Option Int × List Char)
  | c :: rest =>
    if c = 'e' || c = 'E' then
      match rest with
      | '-' :: rest => (readDigits rest).map fun (digits, rest) =>
          (some (-(Nat.ofDigitChars 10 digits 0 : Int)), rest)
      | '+' :: rest => (readDigits rest).map fun (digits, rest) =>
          (some (Nat.ofDigitChars 10 digits 0 : Int), rest)
      | rest => (readDigits rest).map fun (digits, rest) =>
          (some (Nat.ofDigitChars 10 digits 0 : Int), rest)
    else some (none, c :: rest)
  | [] => some (none, [])

/-- A number behind its sign. -/
def readUnsigned (negative : Bool) (cs : List Char) : Option (Json × List Char) := do
  let (whole, rest) ← readWhole cs
  let (fraction, rest) ← readFraction rest
  let (exponent, rest) ← readExponent rest
  pure (.number ⟨negative, whole, fraction, exponent⟩, rest)

def readNumber : List Char → Option (Json × List Char)
  | '-' :: rest => readUnsigned true rest
  | rest => readUnsigned false rest

/-! ### Values

The first argument bounds the number of steps. A value takes at most one step for each of its
characters, so the length of the text is always enough. -/

mutual

def readValue : Nat → List Char → Option (Json × List Char)
  | 0, _ => none
  | fuel + 1, cs =>
    match skipBlanks cs with
    | 'n' :: 'u' :: 'l' :: 'l' :: rest => some (.null, rest)
    | 't' :: 'r' :: 'u' :: 'e' :: rest => some (.bool true, rest)
    | 'f' :: 'a' :: 'l' :: 's' :: 'e' :: rest => some (.bool false, rest)
    | '"' :: rest => (readText rest).map fun (text, rest) => (.string text, rest)
    | '[' :: rest =>
      match skipBlanks rest with
      | ']' :: rest => some (.array [], rest)
      | rest =>
        match readValue fuel rest with
        | some (item, rest) =>
          (readItems fuel rest).map fun (items, rest) => (.array (item :: items), rest)
        | none => none
    | '{' :: rest =>
      match skipBlanks rest with
      | '}' :: rest => some (.object [], rest)
      | rest =>
        match readMember fuel rest with
        | some (member, rest) =>
          (readMembers fuel rest).map fun (members, rest) => (.object (member :: members), rest)
        | none => none
    | rest => readNumber rest

/-- The items behind the first, up to the closing bracket. -/
def readItems : Nat → List Char → Option (List Json × List Char)
  | 0, _ => none
  | fuel + 1, cs =>
    match skipBlanks cs with
    | ']' :: rest => some ([], rest)
    | ',' :: rest =>
      match readValue fuel rest with
      | some (item, rest) => (readItems fuel rest).map fun (items, rest) => (item :: items, rest)
      | none => none
    | _ => none

def readMember : Nat → List Char → Option ((Text × Json) × List Char)
  | 0, _ => none
  | fuel + 1, cs =>
    match skipBlanks cs with
    | '"' :: rest =>
      match readText rest with
      | some (key, rest) =>
        match skipBlanks rest with
        | ':' :: rest => (readValue fuel rest).map fun (value, rest) => ((key, value), rest)
        | _ => none
      | none => none
    | _ => none

/-- The members behind the first, up to the closing brace. -/
def readMembers : Nat → List Char → Option (List (Text × Json) × List Char)
  | 0, _ => none
  | fuel + 1, cs =>
    match skipBlanks cs with
    | '}' :: rest => some ([], rest)
    | ',' :: rest =>
      match readMember fuel rest with
      | some (member, rest) =>
        (readMembers fuel rest).map fun (members, rest) => (member :: members, rest)
      | none => none
    | _ => none

end

/-- The value that a text spells, with nothing but blanks around it. -/
def parse? (text : String) : Option Json :=
  let cs := text.toList
  match readValue (cs.length + 1) cs with
  | some (value, rest) => if (skipBlanks rest).isEmpty then some value else none
  | none => none

end TraceArbiter.Json
