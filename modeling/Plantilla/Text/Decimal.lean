import Plantilla.Text.Numeral
/-!
# Decimal — numbers written with a point or an exponent

A decimal is kept exactly, as a sign, digits and a power of ten.  The nearest number of 64 bits is wanted in two
ways: as a value (`toFloat`), and as the mere question whether there is a finite one (`isFinite`), which is answered
in whole numbers.
-/
namespace Plantilla

/-- The number `± mantissa · 10 ^ exponent`. -/
structure Decimal where
  negative : Bool
  mantissa : Nat
  exponent : Int
deriving DecidableEq, Repr

namespace Decimal

/-- The number of decimal digits; one for zero. -/
def digitCount (n : Nat) : Nat := (Nat.toDigits 10 n).length

/-- The least number that rounds past the largest finite one: half a unit in its last place above it. -/
def overflow : Nat := Nat.pow 2 1024 - Nat.pow 2 970

/-- Whether the nearest number of 64 bits is finite. -/
def isFinite (d : Decimal) : Bool :=
  let magnitude := d.exponent + digitCount d.mantissa
  if d.mantissa = 0 ∨ magnitude ≤ 308 then true
  else if 310 < magnitude then false
  else if 0 ≤ d.exponent then d.mantissa * Nat.pow 10 d.exponent.toNat < overflow
  else d.mantissa < overflow * Nat.pow 10 (-d.exponent).toNat

/-- The nearest number of 64 bits, a tie going to the even neighbour. -/
def toFloat (d : Decimal) : Float :=
  let magnitude := d.exponent + digitCount d.mantissa
  let size : Float :=
    if d.mantissa = 0 ∨ magnitude < -330 then 0
    else if 310 < magnitude then 1 / 0
    else Float.ofScientific d.mantissa (d.exponent < 0) d.exponent.natAbs
  if d.negative then -size else size

/-- The decimal of written parts: the digits before and after the point, and the exponent. -/
def ofParts (negative : Bool) (whole fraction : List Char) (exponent : Int) : Decimal :=
  ⟨negative, Numeral.ofDigits (whole ++ fraction), exponent - fraction.length⟩

end Decimal

/-! ## Written decimals -/

/-- The exponent after its mark: an optional sign and at least one digit, to the end of the text. -/
def Decimal.exponent? (cs : List Char) : Option Int :=
  let (negative, ds) := match cs with
    | '-' :: ds => (true, ds)
    | '+' :: ds => (false, ds)
    | ds => (false, ds)
  if ds ≠ [] ∧ ds.all Numeral.isDigit = true then
    some (if negative then -(Numeral.ofDigits ds : Int) else (Numeral.ofDigits ds : Int))
  else none

/-- A decimal in its loosest spelling: an optional sign, digits with an optional point anywhere among them, and an
optional exponent. -/
def Decimal.ofText? (s : String) : Option Decimal :=
  let (negative, cs) := match s.toList with
    | '-' :: cs => (true, cs)
    | '+' :: cs => (false, cs)
    | cs => (false, cs)
  let whole := cs.takeWhile Numeral.isDigit
  let afterWhole := cs.dropWhile Numeral.isDigit
  let (fraction, afterFraction) := match afterWhole with
    | '.' :: r => (r.takeWhile Numeral.isDigit, r.dropWhile Numeral.isDigit)
    | r => ([], r)
  if whole = [] ∧ fraction = [] then none
  else
    match afterFraction with
    | [] => some (Decimal.ofParts negative whole fraction 0)
    | mark :: r =>
      if mark = 'e' ∨ mark = 'E' then
        (Decimal.exponent? r).map (Decimal.ofParts negative whole fraction)
      else none

end Plantilla
