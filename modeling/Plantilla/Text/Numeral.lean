/-!
# Numeral — decimal digits

A run of digits denotes a natural number of any size (`ofDigits`).  Two places read such a run into a word of 64
bits: the scanner keeps the largest word for a longer number, and a setting refuses it (`word?`).
-/
namespace Plantilla
namespace Numeral

def isDigit (c : Char) : Bool := '0' ≤ c && c ≤ '9'

def digitValue (c : Char) : Nat := c.toNat - 48

def ofDigits (ds : List Char) : Nat := ds.foldl (fun n d => 10 * n + digitValue d) 0

/-- The largest number that fits in 64 bits. -/
def maxWord : Nat := Nat.pow 2 64 - 1

/-- The largest number that fits in 64 bits with a sign. -/
def maxSigned : Nat := Nat.pow 2 63 - 1

/-- A non-empty run of digits, after an optional plus sign, whose number fits in 64 bits. -/
def word? (s : String) : Option Nat :=
  let ds := match s.toList with
    | '+' :: cs => cs
    | cs => cs
  if ds ≠ [] ∧ ds.all isDigit = true ∧ ofDigits ds ≤ maxWord then some (ofDigits ds) else none

/-- The text of a number: decimal, no leading zeros. -/
def text (n : Nat) : String := Nat.repr n

/-- The text of a whole number, with a minus sign in front of a negative one. -/
def integerText : Int → String
  | .ofNat n => text n
  | .negSucc n => "-" ++ text (n + 1)

end Numeral
end Plantilla
