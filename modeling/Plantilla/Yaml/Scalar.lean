import Plantilla.Text.Decimal
/-!
# Scalar — a text as a YAML scalar

A text is written in the plainest of four styles that reads back as that very text: as it is, between single quotes,
as a literal block, or between double quotes with escapes.  A text with a newline wants to be a literal block, a text
that would read as nothing, a truth value or a number wants quotes, and any other wants to be plain; characters that
the wanted style cannot show push it further down.

No line is ever folded.  A break inside a quoted or literal text starts a line, and what follows it on that line is
indented.
-/
namespace Plantilla
namespace Yaml

/-! ## Texts that would read as something else -/

def digitIn? (base : Nat) (c : Char) : Option Nat :=
  let value :=
    if '0' ≤ c ∧ c ≤ '9' then some (c.toNat - 48)
    else if 'a' ≤ c ∧ c ≤ 'f' then some (c.toNat - 87)
    else if 'A' ≤ c ∧ c ≤ 'F' then some (c.toNat - 55)
    else none
  value.filter (· < base)

/-- The number of a non-empty run of digits in a base. -/
def numberIn? (base : Nat) (cs : List Char) : Option Nat :=
  if cs = [] then none
  else cs.foldl (fun n? c => n?.bind fun n => (digitIn? base c).map fun d => base * n + d) (some 0)

/-- The number after a base mark: `0x`, `0o` or `0b`. -/
def basedNumber? : List Char → Option Nat
  | '0' :: 'x' :: cs => numberIn? 16 cs
  | '0' :: 'o' :: cs => numberIn? 8 cs
  | '0' :: 'b' :: cs => numberIn? 2 cs
  | _ => none

/-- A number with a base mark that fits in 128 bits, the sign included. -/
def isBasedNumber (cs : List Char) : Bool :=
  match cs with
  | '-' :: r => (basedNumber? r).any (· ≤ Nat.pow 2 127)
  | '+' :: r => (basedNumber? r).any (· < Nat.pow 2 128)
  | r => (basedNumber? r).any (· < Nat.pow 2 128)

/-- A run of digits behind a zero, after an optional sign. -/
def isZeroLed (cs : List Char) : Bool :=
  let ds := match cs with
    | '-' :: r => r
    | '+' :: r => r
    | r => r
  match ds with
  | '0' :: d :: r => (d :: r).all Numeral.isDigit
  | _ => false

/-- The spellings of nothing, of truth values, and of numbers that are not finite. -/
def namedValues : List String :=
  ["", "null", "Null", "NULL", "~", "true", "True", "TRUE", "false", "False", "FALSE",
   ".inf", ".Inf", ".INF", "+.inf", "+.Inf", "+.INF", "-.inf", "-.Inf", "-.INF", ".nan", ".NaN", ".NAN"]

/-- A text that, written plainly, would not read back as a text. -/
def readsOtherwise (s : String) : Bool :=
  namedValues.contains s || isBasedNumber s.toList || isZeroLed s.toList
    || (Decimal.ofText? s).any Decimal.isFinite

/-! ## What a style can show -/

def isBreak (c : Char) : Bool := c == '\n' || c == '\r' || c == '\x85' || c == '\u2028' || c == '\u2029'

/-- A character that may stand for itself. -/
def isPrintable (c : Char) : Bool :=
  let n := c.toNat
  n == 0x0A || (0x20 ≤ n && n ≤ 0x7E) || (0xA0 ≤ n && n ≤ 0xD7FF) || (0xE000 ≤ n && n ≤ 0xFFFD && n != 0xFEFF)
    || (0x10000 ≤ n && n ≤ 0x10FFFF)

/-- A character after which an indicator stands alone, or the end of the text. -/
def isBlankz : Option Char → Bool
  | none => true
  | some c => c == ' ' || c == '\t' || isBreak c || c == '\x00'

def spaceBeforeBreak : List Char → Bool
  | a :: b :: cs => (a == ' ' && isBreak b) || spaceBeforeBreak (b :: cs)
  | _ => false

def spaceAfterBreak : List Char → Bool
  | a :: b :: cs => (isBreak a && b == ' ') || spaceAfterBreak (b :: cs)
  | _ => false

def colonBeforeBlank : List Char → Bool
  | [] => false
  | c :: cs => (c == ':' && isBlankz cs.head?) || colonBeforeBlank cs

def hashAfterBlank : List Char → Bool
  | a :: b :: cs => (isBlankz (some a) && b == '#') || hashAfterBlank (b :: cs)
  | _ => false

/-- The characters that mean something at the head of a plain text. -/
def headIndicators : List Char :=
  ['#', ',', '[', ']', '\x7b', '\x7d', '&', '*', '!', '|', '>', '\x27', '"', '%', '@', '\x60']

def startsWithIndicator : List Char → Bool
  | '-' :: '-' :: '-' :: _ => true
  | '.' :: '.' :: '.' :: _ => true
  | c :: cs => headIndicators.contains c || ((c == '?' || c == ':' || c == '-') && isBlankz cs.head?)
  | [] => false

def hasLooseEnd (cs : List Char) : Bool :=
  let loose (c : Char) : Bool := c == ' ' || isBreak c
  cs.head?.any loose || cs.getLast?.any loose

def allowsPlain (cs : List Char) : Bool :=
  !(hasLooseEnd cs || cs.any isBreak || startsWithIndicator cs || colonBeforeBlank cs || hashAfterBlank cs)

def allowsSingle (cs : List Char) : Bool :=
  cs.all isPrintable && !spaceBeforeBreak cs && !spaceAfterBreak cs

def allowsLiteral (cs : List Char) : Bool :=
  cs.all isPrintable && !spaceBeforeBreak cs && !(cs.getLast?.any (· == ' '))

/-! ## Styles -/

inductive Style where
  | plain
  | single
  | double
  | literal
deriving DecidableEq, Repr

def styleOf (s : String) : Style :=
  let cs := s.toList
  if cs.contains '\n' then if allowsLiteral cs then .literal else .double
  else if !allowsSingle cs then .double
  else if readsOtherwise s || !allowsPlain cs then .single
  else .plain

def pad (indent : Nat) : List Char := List.replicate indent ' '

/-- The characters between single quotes, and the closing quote; `fresh` says that a line was just started. -/
def singleBody (indent : Nat) : Bool → List Char → List Char
  | fresh, [] => (if fresh then pad indent else []) ++ ['\x27']
  | fresh, c :: cs =>
    if isBreak c then c :: singleBody indent true cs
    else
      (if fresh then pad indent else []) ++ (if c = '\x27' then ['\x27', '\x27'] else [c])
        ++ singleBody indent false cs

/-- The lines of a literal block; `fresh` says that a line was just started. -/
def literalBody (indent : Nat) : Bool → List Char → List Char
  | _, [] => []
  | fresh, c :: cs =>
    if isBreak c then c :: literalBody indent true cs
    else (if fresh then pad indent else []) ++ c :: literalBody indent false cs

/-- What follows the bar of a literal block: the indent where the text starts with a space or a break, and how its
last breaks are to be read. -/
def literalHints (cs : List Char) : List Char :=
  (if cs.head?.any (fun c => c == ' ' || isBreak c) then ['2'] else [])
    ++ match cs.reverse with
      | [] => ['-']
      | [c] => if isBreak c then ['+'] else ['-']
      | c :: b :: _ => if !isBreak c then ['-'] else if isBreak b then ['+'] else []

/-- An upper-case hexadecimal number of a fixed width. -/
def hexText : Nat → Nat → List Char
  | 0, _ => []
  | width + 1, n =>
    let digit := n % 16
    hexText width (n / 16) ++ [if digit < 10 then Char.ofNat (48 + digit) else Char.ofNat (55 + digit)]

def doubleEscape (c : Char) : List Char :=
  if c = '\x00' then ['\\', '0']
  else if c = '\x07' then ['\\', 'a']
  else if c = '\x08' then ['\\', 'b']
  else if c = '\t' then ['\\', 't']
  else if c = '\n' then ['\\', 'n']
  else if c = '\x0b' then ['\\', 'v']
  else if c = '\x0c' then ['\\', 'f']
  else if c = '\r' then ['\\', 'r']
  else if c = '\x1b' then ['\\', 'e']
  else if c = '"' then ['\\', '"']
  else if c = '\\' then ['\\', '\\']
  else if c = '\x85' then ['\\', 'N']
  else if c = '\u2028' then ['\\', 'L']
  else if c = '\u2029' then ['\\', 'P']
  else if isPrintable c then [c]
  else if c.toNat ≤ 0xFF then ['\\', 'x'] ++ hexText 2 c.toNat
  else if c.toNat ≤ 0xFFFF then ['\\', 'u'] ++ hexText 4 c.toNat
  else ['\\', 'U'] ++ hexText 8 c.toNat

/-- A text as a scalar, the lines after its first at an indent. -/
def scalar (indent : Nat) (s : String) : List Char :=
  let cs := s.toList
  match styleOf s with
  | .plain => cs
  | .single => ['\x27'] ++ singleBody indent false cs
  | .double => ['"'] ++ cs.flatMap doubleEscape ++ ['"']
  | .literal => ['|'] ++ literalHints cs ++ ['\n'] ++ literalBody indent true cs

/-- The line break after a scalar; a literal block that ends in a break has its own. -/
def scalarEnd (s : String) : List Char :=
  if styleOf s = .literal && s.toList.getLast?.any isBreak then [] else ['\n']

/-- A key with a text, to the end of its last line. -/
def entry (key : String) (indent : Nat) (s : String) : List Char :=
  key.toList ++ [':', ' '] ++ scalar indent s ++ scalarEnd s

/-- A key with a value that is a single word. -/
def wordEntry (key word : String) : List Char := key.toList ++ [':', ' '] ++ word.toList ++ ['\n']

end Yaml
end Plantilla
