import Plantilla.Text.Decimal
import Plantilla.Toml.Text
/-!
# Number — integers and floats of a TOML file

Digits may be grouped by single underscores.  An integer is decimal, with an optional sign and no zero in front, or
follows a base mark without a sign; it has to fit in 64 bits with a sign.  A float has a point with digits on both
sides, an exponent, or both, or is one of the two names.
-/
namespace Plantilla
namespace Toml

/-- The digits at the head with the underscores between them, and what follows. -/
def groupedDigits (isDigit : Char → Bool) : List Char → List Char × List Char
  | '_' :: c :: r =>
    if isDigit c then
      let later := groupedDigits isDigit r
      (c :: later.1, later.2)
    else ([], '_' :: c :: r)
  | c :: r =>
    if isDigit c then
      let later := groupedDigits isDigit r
      (c :: later.1, later.2)
    else ([], c :: r)
  | [] => ([], [])

/-- At least one digit, the first without an underscore. -/
def digits? (isDigit : Char → Bool) : List Char → Option (List Char × List Char)
  | c :: r =>
    if isDigit c then
      let later := groupedDigits isDigit r
      some (c :: later.1, later.2)
    else none
  | [] => none

/-- Whether the sign at the head is a minus, and what follows the sign. -/
def sign : List Char → Bool × List Char
  | '-' :: r => (true, r)
  | '+' :: r => (false, r)
  | r => (false, r)

/-- Decimal digits without a zero in front of others. -/
def wholeDigits? : List Char → Option (List Char × List Char)
  | '0' :: r => some (['0'], r)
  | r => digits? Numeral.isDigit r

/-- An integer that fits in 64 bits with a sign. -/
def inRange? (n : Int) : Option Int := if -Numeral.maxSigned - 1 ≤ n ∧ n ≤ Numeral.maxSigned then some n else none

/-- The number of a run of digits in a base. -/
def ofDigitsIn (base : Nat) (ds : List Char) : Nat :=
  ds.foldl (fun n d => base * n + (hexValue? d).getD 0) 0

def basedInteger? (base : Nat) (cs : List Char) : Option (Int × List Char) :=
  (digits? (fun c => (hexValue? c).any (· < base)) cs).bind fun p =>
    (inRange? (ofDigitsIn base p.1)).map fun n => (n, p.2)

def integer? : List Char → Option (Int × List Char)
  | '0' :: 'x' :: r => basedInteger? 16 r
  | '0' :: 'o' :: r => basedInteger? 8 r
  | '0' :: 'b' :: r => basedInteger? 2 r
  | cs =>
    let (negative, r) := sign cs
    (wholeDigits? r).bind fun p =>
      let n : Int := Numeral.ofDigits p.1
      (inRange? (if negative then -n else n)).map fun n => (n, p.2)

def exponent? : List Char → Option (Int × List Char)
  | mark :: r =>
    if mark = 'e' ∨ mark = 'E' then
      let (negative, r) := sign r
      (digits? Numeral.isDigit r).map fun p =>
        let n : Int := Numeral.ofDigits p.1
        (if negative then -n else n, p.2)
    else none
  | [] => none

/-- The decimal at the head: whole digits, then a fraction, an exponent, or both. -/
def decimal? (cs : List Char) : Option (Decimal × List Char) :=
  let (negative, r) := sign cs
  (wholeDigits? r).bind fun whole =>
    match whole.2 with
    | '.' :: r =>
      (digits? Numeral.isDigit r).map fun fraction =>
        match exponent? fraction.2 with
        | some (e, r) => (Decimal.ofParts negative whole.1 fraction.1 e, r)
        | none => (Decimal.ofParts negative whole.1 fraction.1 0, fraction.2)
    | r => (exponent? r).map fun p => (Decimal.ofParts negative whole.1 [] p.1, p.2)

/-- The number of a decimal.  One that is too large is refused; one that is too small is minus infinity. -/
def ofDecimal? (d : Decimal) : Option Float :=
  if d.isFinite || d.negative then some d.toFloat else none

def float? (cs : List Char) : Option (Float × List Char) :=
  match decimal? cs with
  | some (d, r) => (ofDecimal? d).map fun x => (x, r)
  | none =>
    let (negative, r) := sign cs
    match r with
    | 'i' :: 'n' :: 'f' :: r => some (if negative then -(1 / 0) else 1 / 0, r)
    | 'n' :: 'a' :: 'n' :: r => some (0 / 0, r)
    | _ => none

end Toml
end Plantilla
