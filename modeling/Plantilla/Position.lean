import Plantilla.Text.Bytes
import Plantilla.Text.Numeral
/-!
# Position — line and column of a byte offset

Lines and columns count from one; a line ends at a newline and a column is a character, not a byte.  An offset past
the end stands for the end, and an offset inside a character falls back to the first column of its line.

A text is read once for the offsets at which its lines start.  They stand in rising order, so the line of a place is
found by halving, and only the characters of that line in front of the place are counted.
-/
namespace Plantilla

/-- A place in a text as a reader counts it. -/
@[ext] structure Position where
  line : Nat
  column : Nat
deriving DecidableEq, Repr

namespace Position

/-- How a position is written: `line:column`. -/
def display (p : Position) : String := Numeral.text p.line ++ ":" ++ Numeral.text p.column

def order (p q : Position) : Ordering := (compare p.line q.line).then (compare p.column q.column)

end Position

/-! ## The index of a text -/

/-- The offsets behind the newlines of a text whose first byte is number `o`. -/
def Text.startsBehind (o : Nat) : List Char → List Nat
  | [] => []
  | c :: cs =>
    let next := o + c.utf8Size
    if c = '\n' then next :: startsBehind next cs else startsBehind next cs

/-- A text with the offsets at which its lines start, in rising order. -/
structure LineIndex where
  text : List Char
  starts : Array Nat

namespace LineIndex

/-- The first line starts at byte 0, and every other one behind a newline. -/
def ofChars (cs : List Char) : LineIndex := ⟨cs, (0 :: Text.startsBehind 0 cs).toArray⟩

/-- The number from `lo` to `hi` at which `p` stops to hold, if it holds below and nowhere above. -/
def bisect (p : Nat → Bool) (lo hi : Nat) : Nat :=
  if lo < hi then
    let mid := lo + (hi - lo) / 2
    if p mid then bisect p (mid + 1) hi else bisect p lo mid
  else lo
termination_by hi - lo

/-- How many lines start at byte `k` or before it. -/
def linesTo (index : LineIndex) (k : Nat) : Nat :=
  bisect (fun i => index.starts[i]?.any (· ≤ k)) 0 index.starts.size

/-- The position of a byte; none if no line starts before it.  Past the end it is that of the end, and inside a character
there is nothing to count. -/
def position? (index : LineIndex) (offset : Nat) : Option Position :=
  let k := min offset (Text.byteLength index.text)
  match index.linesTo k with
  | 0 => none
  | line + 1 => index.starts[line]?.map fun start =>
    ⟨line + 1, ((Text.slice? start k index.text).map List.length).getD 0 + 1⟩

/-- The position of a byte of a text.  In the index of a text the first line starts before every byte. -/
def position (index : LineIndex) (offset : Nat) : Position := (index.position? offset).getD ⟨1, 1⟩

end LineIndex
end Plantilla
