import Plantilla.Text.Decimal
/-!
# Json — structured values and their text

A value is written with a line for every entry, two spaces deeper than its container.  In a text the quote, the backslash
and the controls are escaped, and all else stands for itself.
-/
namespace Plantilla

/-- A value.  Whole numbers are apart from those written with a point or an exponent; the fields of an object keep
their order. -/
inductive Json where
  | null
  | bool (b : Bool)
  | integer (n : Int)
  | decimal (d : Decimal)
  | string (s : String)
  | array (items : List Json)
  | object (fields : List (String × Json))

namespace Json

/-- The value of a field; where a key repeats, the last one counts. -/
def field? (v : Json) (key : String) : Option Json :=
  match v with
  | object fields => fields.reverse.lookup key
  | _ => none

/-! ## Scalars -/

/-- The lower-case hexadecimal digit of a number below sixteen. -/
def hexDigit (n : Nat) : Char := if n < 10 then Char.ofNat (48 + n) else Char.ofNat (87 + n)

def escape (c : Char) : List Char :=
  if c = '"' then ['\\', '"']
  else if c = '\\' then ['\\', '\\']
  else if c = '\x08' then ['\\', 'b']
  else if c = '\x0c' then ['\\', 'f']
  else if c = '\n' then ['\\', 'n']
  else if c = '\r' then ['\\', 'r']
  else if c = '\t' then ['\\', 't']
  else if c.toNat < 0x20 then ['\\', 'u', '0', '0', hexDigit (c.toNat / 16), hexDigit (c.toNat % 16)]
  else [c]

def quote (s : String) : List Char := ['"'] ++ s.toList.flatMap escape ++ ['"']

def integerText (n : Int) : List Char := (Numeral.integerText n).toList

/-- A decimal as its digits with an exponent. -/
def decimalText (d : Decimal) : List Char :=
  (if d.negative then ['-'] else []) ++ (Numeral.text d.mantissa).toList ++ ['e'] ++ integerText d.exponent

def boolText (b : Bool) : List Char := if b then ['t', 'r', 'u', 'e'] else ['f', 'a', 'l', 's', 'e']

def nullText : List Char := ['n', 'u', 'l', 'l']

/-! ## One entry a line -/

def newline (depth : Nat) : List Char := '\n' :: List.replicate (2 * depth) ' '

mutual

/-- The text of a value that stands at a depth. -/
def prettyAt (depth : Nat) : Json → List Char
  | null => nullText
  | bool b => boolText b
  | integer n => integerText n
  | decimal d => decimalText d
  | string s => quote s
  | array [] => ['[', ']']
  | array (v :: vs) =>
    ['['] ++ newline (depth + 1) ++ prettyAt (depth + 1) v ++ prettyItems (depth + 1) vs ++ newline depth ++ [']']
  | object [] => ['\x7b', '\x7d']
  | object ((key, v) :: fields) =>
    ['\x7b'] ++ newline (depth + 1) ++ quote key ++ [':', ' '] ++ prettyAt (depth + 1) v
      ++ prettyFields (depth + 1) fields ++ newline depth ++ ['\x7d']

/-- The further items of an array, each after a comma. -/
def prettyItems (depth : Nat) : List Json → List Char
  | [] => []
  | v :: vs => [','] ++ newline depth ++ prettyAt depth v ++ prettyItems depth vs

/-- The further fields of an object, each after a comma. -/
def prettyFields (depth : Nat) : List (String × Json) → List Char
  | [] => []
  | (key, v) :: fields =>
    [','] ++ newline depth ++ quote key ++ [':', ' '] ++ prettyAt depth v ++ prettyFields depth fields

end

/-- The text of a value, one entry a line, without a line break at the end. -/
def pretty (v : Json) : String := String.ofList (prettyAt 0 v)

end Json
end Plantilla
