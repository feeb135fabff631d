import Plantilla.Text.Numeral
/-!
# Text — strings and comments of a TOML file

Strings come in four spellings: between double quotes with escapes or between single quotes without, on one line or,
behind three quotes, on several.  A reader here stands behind the opening quotes and gives the characters with what
follows the closing ones.  A line break inside a string is one newline, however it is written.
-/
namespace Plantilla
namespace Toml

def isSpace (c : Char) : Bool := c == ' ' || c == '\t'

def skipSpace (cs : List Char) : List Char := cs.dropWhile isSpace

/-- A character that may stand in a comment: no control character but the tab. -/
def isShown (c : Char) : Bool := c == '\t' || (0x20 ≤ c.toNat && c.toNat != 0x7F)

/-- What follows a line break at the head, if one stands there. -/
def lineBreak? : List Char → Option (List Char)
  | '\n' :: r => some r
  | '\r' :: '\n' :: r => some r
  | _ => none

def skipComment : List Char → List Char
  | '#' :: r => r.dropWhile isShown
  | r => r

/-- What follows the line break or the end of the file. -/
def lineEnd? (cs : List Char) : Option (List Char) := if cs = [] then some [] else lineBreak? cs

/-- What follows the rest of a line that holds only space and a comment. -/
def finishLine? (cs : List Char) : Option (List Char) := lineEnd? (skipComment (skipSpace cs))

/-! ## Escapes -/

def hexValue? (c : Char) : Option Nat :=
  if '0' ≤ c ∧ c ≤ '9' then some (c.toNat - 48)
  else if 'a' ≤ c ∧ c ≤ 'f' then some (c.toNat - 87)
  else if 'A' ≤ c ∧ c ≤ 'F' then some (c.toNat - 55)
  else none

/-- The character of a code point; surrogates and numbers beyond the last code point have none. -/
def charOf? (n : Nat) : Option Char := if n.isValidChar then some (Char.ofNat n) else none

def hexChar? (ds : List Char) : Option Char :=
  (ds.foldl (fun n? d => n?.bind fun n => (hexValue? d).map fun v => 16 * n + v) (some 0)).bind charOf?

def letterEscape? : Char → Option Char
  | 'b' => some '\x08'
  | 'f' => some '\x0c'
  | 'n' => some '\n'
  | 'r' => some '\r'
  | 't' => some '\t'
  | '"' => some '"'
  | '\\' => some '\\'
  | _ => none

/-- A reader's result with one more character in front. -/
def withChar (c : Char) (p : List Char × List Char) : List Char × List Char := (c :: p.1, p.2)

/-! ## Strings on one line -/

def basicString : List Char → Option (List Char × List Char)
  | [] => none
  | '"' :: r => some ([], r)
  | '\\' :: 'u' :: a :: b :: c :: d :: r =>
    (hexChar? [a, b, c, d]).bind fun x => (basicString r).map (withChar x)
  | '\\' :: 'U' :: a :: b :: c :: d :: e :: f :: g :: h :: r =>
    (hexChar? [a, b, c, d, e, f, g, h]).bind fun x => (basicString r).map (withChar x)
  | '\\' :: c :: r => (letterEscape? c).bind fun x => (basicString r).map (withChar x)
  | c :: r => if isShown c && c != '\\' then (basicString r).map (withChar c) else none

def literalString : List Char → Option (List Char × List Char)
  | [] => none
  | '\x27' :: r => some ([], r)
  | c :: r => if isShown c then (literalString r).map (withChar c) else none

/-! ## Strings on several lines -/

/-- What follows a line break directly behind the opening quotes. -/
def afterOpening (cs : List Char) : List Char := (lineBreak? cs).getD cs

/-- The closing of a string on several lines, for one sort of quote: up to two quotes directly before the three that
close belong to the string. -/
def closing? (quote : Char) : List Char → Option (List Char × List Char)
  | a :: b :: c :: r =>
    if a = quote ∧ b = quote ∧ c = quote then
      match r with
      | d :: e :: r' =>
        if d = quote then if e = quote then some ([quote, quote], r') else some ([quote], e :: r')
        else some ([], r)
      | [d] => if d = quote then some ([quote], []) else some ([], r)
      | [] => some ([], [])
    else none
  | _ => none

/-- Whether an escaped line break stands behind a backslash: space, then a line break. -/
def escapesBreak (cs : List Char) : Bool := (lineBreak? (skipSpace cs)).isSome

def isBlankOrBreak (c : Char) : Bool := isSpace c || c == '\n'

/-- The characters up to three closing double quotes.  `skipping` says that an escaped line break was met and the
space behind it is still being passed over. -/
def longBasicString : Bool → List Char → Option (List Char × List Char)
  | _, [] => none
  | true, '\r' :: '\n' :: r => longBasicString true r
  | false, '\r' :: '\n' :: r => (longBasicString false r).map (withChar '\n')
  | _, '\\' :: 'u' :: a :: b :: c :: d :: r =>
    (hexChar? [a, b, c, d]).bind fun x => (longBasicString false r).map (withChar x)
  | _, '\\' :: 'U' :: a :: b :: c :: d :: e :: f :: g :: h :: r =>
    (hexChar? [a, b, c, d, e, f, g, h]).bind fun x => (longBasicString false r).map (withChar x)
  | _, '\\' :: c :: r =>
    if escapesBreak (c :: r) then
      if c = '\r' then (match r with
        | '\n' :: r => longBasicString true r
        | _ => none)
      else longBasicString true r
    else (letterEscape? c).bind fun x => (longBasicString false r).map (withChar x)
  | skipping, c :: r =>
    if skipping && isBlankOrBreak c then longBasicString true r
    else
      match closing? '"' (c :: r) with
      | some found => some found
      | none =>
        if (isShown c && c != '\\') || c == '\n' then (longBasicString false r).map (withChar c) else none

/-- The characters up to three closing single quotes. -/
def longLiteralString : List Char → Option (List Char × List Char)
  | [] => none
  | '\r' :: '\n' :: r => (longLiteralString r).map (withChar '\n')
  | c :: r =>
    match closing? '\x27' (c :: r) with
    | some found => some found
    | none => if isShown c || c == '\n' then (longLiteralString r).map (withChar c) else none

/-- The string at the head, quotes included. -/
def string? : List Char → Option (List Char × List Char)
  | '"' :: '"' :: '"' :: r => longBasicString false (afterOpening r)
  | '"' :: r => basicString r
  | '\x27' :: '\x27' :: '\x27' :: r => longLiteralString (afterOpening r)
  | '\x27' :: r => literalString r
  | _ => none

end Toml
end Plantilla
