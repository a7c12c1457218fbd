/-!
# Bytes as text

Control files are read as UTF-8 and refused when they are not. What a helper program prints is
shown to people, so it is decoded leniently: each longest run of bytes that begins a character and
does not finish it, and each byte that cannot begin one, becomes the replacement character.
-/

namespace TraceArbiter.Text

/-- The text whose UTF-8 encoding the bytes are. -/
def ofBytes? (bytes : ByteArray) : Option String :=
  String.fromUTF8? bytes

def replacement : Char := '\uFFFD'

/-- Continuation bytes that may follow a leading byte of a character of more than two bytes: this
excludes overlong forms, surrogates and values past the last code point. -/
def secondRange (lead : UInt8) : UInt8 × UInt8 :=
  if lead = 0xE0 then (0xA0, 0xBF)
  else if lead = 0xED then (0x80, 0x9F)
  else if lead = 0xF0 then (0x90, 0xBF)
  else if lead = 0xF4 then (0x80, 0x8F)
  else (0x80, 0xBF)

def isContinuation (b : UInt8) : Bool :=
  0x80 ≤ b && b ≤ 0xBF

def isSecond (lead b : UInt8) : Bool :=
  (secondRange lead).1 ≤ b && b ≤ (secondRange lead).2

/-- The character with the given leading payload and six bits from each continuation byte. -/
def assemble (payload : Nat) (rest : List UInt8) : Char :=
  Char.ofNat (rest.foldl (fun n b => n * 64 + b.toNat % 64) payload)

def lenientChars : List UInt8 → List Char
  | [] => []
  | a :: r =>
    if a < 0x80 then Char.ofNat a.toNat :: lenientChars r
    else if 0xC2 ≤ a ∧ a ≤ 0xDF then
      match r with
      | b :: r => if isContinuation b then assemble (a.toNat % 32) [b] :: lenientChars r
        else replacement :: lenientChars (b :: r)
      | [] => [replacement]
    else if 0xE0 ≤ a ∧ a ≤ 0xEF then
      match r with
      | b :: c :: r =>
        if !isSecond a b then replacement :: lenientChars (b :: c :: r)
        else if !isContinuation c then replacement :: lenientChars (c :: r)
        else assemble (a.toNat % 16) [b, c] :: lenientChars r
      | [b] => if isSecond a b then [replacement] else replacement :: lenientChars [b]
      | [] => [replacement]
    else if 0xF0 ≤ a ∧ a ≤ 0xF4 then
      match r with
      | b :: c :: d :: r =>
        if !isSecond a b then replacement :: lenientChars (b :: c :: d :: r)
        else if !isContinuation c then replacement :: lenientChars (c :: d :: r)
        else if !isContinuation d then replacement :: lenientChars (d :: r)
        else assemble (a.toNat % 8) [b, c, d] :: lenientChars r
      | [b, c] =>
        if !isSecond a b then replacement :: lenientChars [b, c]
        else if !isContinuation c then replacement :: lenientChars [c]
        else [replacement]
      | [b] => if isSecond a b then [replacement] else replacement :: lenientChars [b]
      | [] => [replacement]
    else replacement :: lenientChars r

/-- The bytes as text, with the replacement character for what is not UTF-8. -/
def ofBytesLenient (bytes : ByteArray) : String :=
  String.ofList (lenientChars bytes.data.toList)

end TraceArbiter.Text
