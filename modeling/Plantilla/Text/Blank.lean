/-!
# Blank — white space around a text

A text is trimmed before it is checked, and *blank* here is the Unicode property White_Space, which is wider than
the three separators the scanner skips (`Scanner.isGap`).  So a no-break space at the edge of a program vanishes,
and the same character in its middle is illegal.
-/
namespace Plantilla
namespace Text

/-- Whether a character's code point lies in one of the closed ranges, which stand in rising order: behind a range
that starts too late there is no need to look. -/
def inRanges : List (Nat × Nat) → Char → Bool
  | [], _ => false
  | (first, last) :: ranges, c => first ≤ c.toNat && (c.toNat ≤ last || inRanges ranges c)

/-- The code points of White_Space, as closed ranges in rising order. -/
def blankRanges : List (Nat × Nat) :=
  [(0x09, 0x0D), (0x20, 0x20), (0x85, 0x85), (0xA0, 0xA0), (0x1680, 0x1680), (0x2000, 0x200A),
   (0x2028, 0x2029), (0x202F, 0x202F), (0x205F, 0x205F), (0x3000, 0x3000)]

/-- White space at the edges of a text. -/
def isBlank (c : Char) : Bool := inRanges blankRanges c

def leadingBlanks (cs : List Char) : List Char := cs.takeWhile isBlank

def trimEnd (cs : List Char) : List Char := (cs.reverse.dropWhile isBlank).reverse

end Text
end Plantilla
