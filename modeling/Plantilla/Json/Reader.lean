import Plantilla.Json
/-!
# Reader — values from text

The reader takes exactly the standard notation: no comma before a closing bracket, no control character inside
quotes, no zero before other digits, and a character beyond the basic plane either plain or as two halves.  It reads
one value with white space around it, and nothing else may follow.

Fuel bounds the recursion.  Between two characters consumed the reader calls itself at most twice, so twice the
length of the text is always enough (`Json.parse?`).
-/
namespace Plantilla
namespace Json

def isSpace (c : Char) : Bool := c == ' ' || c == '\t' || c == '\n' || c == '\r'

def skipSpace (cs : List Char) : List Char := cs.dropWhile isSpace

/-! ## Text between quotes -/

def hexValue? (c : Char) : Option Nat :=
  if '0' ≤ c ∧ c ≤ '9' then some (c.toNat - 48)
  else if 'a' ≤ c ∧ c ≤ 'f' then some (c.toNat - 87)
  else if 'A' ≤ c ∧ c ≤ 'F' then some (c.toNat - 55)
  else none

def hexValue4? (a b c d : Char) : Option Nat := do
  let a ← hexValue? a
  let b ← hexValue? b
  let c ← hexValue? c
  let d ← hexValue? d
  some (((a * 16 + b) * 16 + c) * 16 + d)

def shortEscape? : Char → Option Char
  | '"' => some '"'
  | '\\' => some '\\'
  | '/' => some '/'
  | 'b' => some '\x08'
  | 'f' => some '\x0c'
  | 'n' => some '\n'
  | 'r' => some '\r'
  | 't' => some '\t'
  | _ => none

/-- The first half of a character beyond the basic plane. -/
def isHighHalf (n : Nat) : Bool := 0xD800 ≤ n && n < 0xDC00

/-- The second half of a character beyond the basic plane. -/
def isLowHalf (n : Nat) : Bool := 0xDC00 ≤ n && n < 0xE000

def joinHalves (high low : Nat) : Char := Char.ofNat (0x10000 + (high - 0xD800) * 0x400 + (low - 0xDC00))

/-- The characters up to the closing quote, and what follows it. -/
def readString : List Char → Option (List Char × List Char)
  | [] => none
  | '"' :: r => some ([], r)
  | '\\' :: 'u' :: a :: b :: c :: d :: r =>
    match hexValue4? a b c d with
    | none => none
    | some n =>
      if isHighHalf n then
        match r with
        | '\\' :: 'u' :: e :: f :: g :: h :: r =>
          match hexValue4? e f g h with
          | none => none
          | some m => if isLowHalf m then (readString r).map fun p => (joinHalves n m :: p.1, p.2) else none
        | _ => none
      else if isLowHalf n then none
      else (readString r).map fun p => (Char.ofNat n :: p.1, p.2)
  | '\\' :: c :: r =>
    match shortEscape? c with
    | some c => (readString r).map fun p => (c :: p.1, p.2)
    | none => none
  | c :: r => if c.toNat < 0x20 then none else (readString r).map fun p => (c :: p.1, p.2)

/-! ## Numbers -/

/-- The exponent at the head, if one stands there: `none` for none, and failure for a mark without digits. -/
def readExponent : List Char → Option (Option Int × List Char)
  | mark :: r =>
    if mark = 'e' ∨ mark = 'E' then
      let (negative, r) := match r with
        | '-' :: r => (true, r)
        | '+' :: r => (false, r)
        | r => (false, r)
      match r.takeWhile Numeral.isDigit with
      | [] => none
      | ds =>
        let n : Int := Numeral.ofDigits ds
        some (some (if negative then -n else n), r.dropWhile Numeral.isDigit)
    else some (none, mark :: r)
  | [] => some (none, [])

/-- The digits after a point at the head, if one stands there. -/
def readFraction : List Char → Option (Option (List Char) × List Char)
  | '.' :: r =>
    match r.takeWhile Numeral.isDigit with
    | [] => none
    | ds => some (some ds, r.dropWhile Numeral.isDigit)
  | r => some (none, r)

/-- The number at the head.  A minus sign before a bare zero makes no whole number. -/
def readNumber (cs : List Char) : Option (Json × List Char) := do
  let (negative, cs) := match cs with
    | '-' :: r => (true, r)
    | r => (false, r)
  let whole := cs.takeWhile Numeral.isDigit
  if whole = [] ∨ (whole.head? = some '0' ∧ 1 < whole.length) then none
  else
    let (fraction, r) ← readFraction (cs.dropWhile Numeral.isDigit)
    let (exponent, r) ← readExponent r
    match fraction, exponent with
    | none, none =>
      let n := Numeral.ofDigits whole
      if negative then if n = 0 then some (decimal ⟨true, 0, 0⟩, r) else some (integer (-n), r)
      else some (integer n, r)
    | _, _ => some (decimal (Decimal.ofParts negative whole (fraction.getD []) (exponent.getD 0)), r)

/-! ## Values -/

mutual

/-- The value at the head, after white space, and what follows it. -/
def readValue : Nat → List Char → Option (Json × List Char)
  | 0, _ => none
  | fuel + 1, cs =>
    match skipSpace cs with
    | 'n' :: 'u' :: 'l' :: 'l' :: r => some (null, r)
    | 't' :: 'r' :: 'u' :: 'e' :: r => some (bool true, r)
    | 'f' :: 'a' :: 'l' :: 's' :: 'e' :: r => some (bool false, r)
    | '"' :: r => (readString r).map fun p => (string (String.ofList p.1), p.2)
    | '[' :: r =>
      match skipSpace r with
      | ']' :: r => some (array [], r)
      | _ => (readItems fuel r).map fun p => (array p.1, p.2)
    | '\x7b' :: r =>
      match skipSpace r with
      | '\x7d' :: r => some (object [], r)
      | _ => (readFields fuel r).map fun p => (object p.1, p.2)
    | cs => readNumber cs

/-- The items up to the closing bracket, at least one. -/
def readItems : Nat → List Char → Option (List Json × List Char)
  | 0, _ => none
  | fuel + 1, cs =>
    match readValue fuel cs with
    | none => none
    | some (v, r) =>
      match skipSpace r with
      | ',' :: r => (readItems fuel r).map fun p => (v :: p.1, p.2)
      | ']' :: r => some ([v], r)
      | _ => none

/-- The fields up to the closing brace, at least one. -/
def readFields : Nat → List Char → Option (List (String × Json) × List Char)
  | 0, _ => none
  | fuel + 1, cs =>
    match skipSpace cs with
    | '"' :: r =>
      match readString r with
      | none => none
      | some (key, r) =>
        match skipSpace r with
        | ':' :: r =>
          match readValue fuel r with
          | none => none
          | some (v, r) =>
            match skipSpace r with
            | ',' :: r => (readFields fuel r).map fun p => ((String.ofList key, v) :: p.1, p.2)
            | '\x7d' :: r => some ([(String.ofList key, v)], r)
            | _ => none
        | _ => none
    | _ => none

end

def parse? (s : String) : Option Json :=
  match readValue (2 * s.toList.length + 2) s.toList with
  | some (v, r) => if skipSpace r = [] then some v else none
  | none => none

end Json
end Plantilla
