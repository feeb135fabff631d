import Plantilla.Setting
import Plantilla.Text.Numeral
/-!
# KeyPath — dotted keys

A path is written as a key, then any number of further keys behind a point and of places in brackets, as in
`recovery.mode` or `list[0].name`.  Keys hold ASCII letters, digits, spaces, underscores and hyphens.
-/
namespace Plantilla
namespace KeyPath

open Setting (PathStep)

def isKeyPart (c : Char) : Bool :=
  ('a' ≤ c && c ≤ 'z') || ('A' ≤ c && c ≤ 'Z') || Numeral.isDigit c || c == ' ' || c == '_' || c == '-'

def isSpace (c : Char) : Bool := c == ' ' || c == '\t'

def key? (cs : List Char) : Option (String × List Char) :=
  match cs.takeWhile isKeyPart with
  | [] => none
  | key => some (String.ofList key, cs.dropWhile isKeyPart)

/-- The number of 64 bits at the head, a hyphen before it if it is negative. -/
def number? (cs : List Char) : Option (Int × List Char) :=
  let (negative, r) := match cs with
    | '-' :: r => (true, r)
    | r => (false, r)
  let digits := r.takeWhile Numeral.isDigit
  let n := Numeral.ofDigits digits
  if digits = [] ∨ (if negative then Numeral.maxSigned + 1 else Numeral.maxSigned) < n then none
  else some (if negative then -n else n, r.dropWhile Numeral.isDigit)

/-- The place behind an opening bracket, to the closing one. -/
def place? (cs : List Char) : Option (Int × List Char) :=
  (number? (cs.dropWhile isSpace)).bind fun p =>
    match p.2.dropWhile isSpace with
    | ']' :: r => some (p.1, r)
    | _ => none

/-- The steps behind the first key; each takes at least two characters. -/
def steps? : Nat → List Char → Option (List PathStep)
  | _, [] => some []
  | 0, _ => none
  | fuel + 1, '.' :: r => (key? r).bind fun p => (steps? fuel p.2).map fun path => .key p.1 :: path
  | fuel + 1, '[' :: r => (place? r).bind fun p => (steps? fuel p.2).map fun path => .index p.1 :: path
  | _, _ => none

def parse? (s : String) : Option (List PathStep) :=
  (key? s.toList).bind fun p => (steps? p.2.length p.2).map fun path => .key p.1 :: path

end KeyPath
end Plantilla
