import Plantilla.Text.Numeral
/-!
# Shortest — the fewest digits that read back

A number of 64 bits is `m · 2 ^ q`, and every real number nearer to it than to its neighbours reads back as it.  On
each decimal grid, from the coarsest down, only the two grid points around the number can lie in that interval; the
first grid with a hit gives the fewest digits; of two hits the nearer is taken, and of two that are as near the upper
one.  The text is positional, with a point and at least one digit after it.
-/
namespace Plantilla
namespace Shortest

/-- A finite positive number `m · 2 ^ q`, with its neighbours: `close` says that the one below is only half as far
away as the one above. -/
structure Binary where
  m : Nat
  q : Int
  close : Bool
deriving DecidableEq, Repr

/-- The fraction and exponent fields of a finite number other than zero. -/
def Binary.ofFields (exponent fraction : Nat) : Binary :=
  if exponent = 0 then ⟨fraction, -1074, false⟩
  else ⟨fraction + Nat.pow 2 52, (exponent : Int) - 1075, fraction = 0 && 1 < exponent⟩

/-- The digits and the exponent of the grid point of `10 ^ p` to which the number is shortened, if that grid has one
that reads back.  All is counted in quarters of the last binary place, times a common denominator. -/
def Binary.onGrid (b : Binary) (p : Int) : Option Nat :=
  let scale := Nat.pow 2 (b.q - 2).toNat * Nat.pow 10 (-p).toNat
  let unit := Nat.pow 10 p.toNat * Nat.pow 2 (2 - b.q).toNat
  let value := 4 * b.m * scale
  let low := (4 * b.m - (if b.close then 1 else 2)) * scale
  let high := (4 * b.m + 2) * scale
  let inside (a : Nat) : Bool :=
    if b.m % 2 = 0 then low ≤ a * unit && a * unit ≤ high else low < a * unit && a * unit < high
  let below := value / unit
  let above := below + 1
  match 0 < below && inside below, inside above with
  | true, true =>
    let toBelow := value - below * unit
    let toAbove := above * unit - value
    some (if toBelow < toAbove then below else above)
  | true, false => some below
  | false, true => some above
  | false, false => none

/-- The grid point of the coarsest grid that has one, looking from `10 ^ p` down. -/
def Binary.search (b : Binary) : Nat → Int → Nat × Int
  | 0, p => (b.m, p)
  | fuel + 1, p =>
    match b.onGrid p with
    | some digits => (digits, p)
    | none => b.search fuel (p - 1)

/-- The fewest digits that read back, and the power of ten that they count. -/
def Binary.digits (b : Binary) : Nat × Int := b.search 660 310

/-- The positional text of `digits · 10 ^ p`, with at least one digit on either side of the point. -/
def positional (digits : Nat) (p : Int) : List Char :=
  let ds := (Numeral.text digits).toList
  if 0 ≤ p then ds ++ List.replicate p.toNat '0' ++ ['.', '0']
  else
    let places := (-p).toNat
    let padded := List.replicate (places + 1 - ds.length) '0' ++ ds
    padded.take (padded.length - places) ++ ['.'] ++ padded.drop (padded.length - places)

/-- The text of a number: its fewest digits, or the name of what is no finite number. -/
def text (x : Float) : String :=
  let bits := x.toBits.toNat
  let sign := if Numeral.maxSigned < bits then "-" else ""
  let exponent := bits / Nat.pow 2 52 % 2048
  let fraction := bits % Nat.pow 2 52
  if exponent = 2047 then if fraction = 0 then sign ++ "inf" else "NaN"
  else if exponent = 0 ∧ fraction = 0 then sign ++ "0.0"
  else
    let (digits, p) := (Binary.ofFields exponent fraction).digits
    sign ++ String.ofList (positional digits p)

end Shortest
end Plantilla
