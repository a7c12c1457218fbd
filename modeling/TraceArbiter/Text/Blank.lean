/-!
# Blank characters

Names, numbers and listings are trimmed and cut into words at blank characters, which are those of
the Unicode property `White_Space`: 25 code points in ten ranges. Everything is defined on lists of
characters, and lifted to strings at the end.
-/

namespace TraceArbiter.Text

/-- Closed ranges of code points, ascending and apart. -/
def blankRanges : List (Nat × Nat) :=
  [(0x09, 0x0D), (0x20, 0x20), (0x85, 0x85), (0xA0, 0xA0), (0x1680, 0x1680), (0x2000, 0x200A),
    (0x2028, 0x2029), (0x202F, 0x202F), (0x205F, 0x205F), (0x3000, 0x3000)]

def isBlank (c : Char) : Bool :=
  blankRanges.any fun range => range.1 ≤ c.toNat && c.toNat ≤ range.2

def trimStart (cs : List Char) : List Char :=
  cs.dropWhile isBlank

def trimEnd (cs : List Char) : List Char :=
  (cs.reverse.dropWhile isBlank).reverse

/-- The characters from the first that is not blank to the last that is not. -/
def trim (s : String) : String :=
  String.ofList (trimEnd (trimStart s.toList))

/-- The longest runs of characters that are not blank, in order. -/
def words (s : String) : List String :=
  ((s.toList.splitOnP isBlank).filter (!·.isEmpty)).map String.ofList

end TraceArbiter.Text
