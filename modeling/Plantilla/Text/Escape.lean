import Plantilla.Text.Blank
import Plantilla.Text.Extender
import Plantilla.Text.Unprintable
/-!
# Escape — showing a character so that it can be told from every other

A character that shows nothing of its own, or that would attach to its neighbour, is written as its code point
`\u{hex}`; the five common controls and the quotes have short forms.  Dumps and log lines use this, so one
character never spills over the line that reports it.
-/
namespace Plantilla
namespace Text

/-- The lower-case hexadecimal digits of a number, without leading zeros. -/
def hexDigits (n : Nat) : List Char := Nat.toDigits 16 n

/-- A character by its code point. -/
def codePointEscape (c : Char) : List Char := ['\\', 'u', '\x7b'] ++ hexDigits c.toNat ++ ['\x7d']

/-- The escape of a character, the quotes apart. -/
def escapeUnquoted (c : Char) : List Char :=
  if c = '\x00' then ['\\', '0']
  else if c = '\t' then ['\\', 't']
  else if c = '\r' then ['\\', 'r']
  else if c = '\n' then ['\\', 'n']
  else if c = '\\' then ['\\', '\\']
  else if inRanges extenderRanges c || inRanges unprintableRanges c then codePointEscape c
  else [c]

/-- The escape of a character where both quotes are escaped. -/
def escapeChar (c : Char) : List Char :=
  if c = '\'' || c = '"' then ['\\', c] else escapeUnquoted c

/-- A character between single quotes, the single quote escaped. -/
def quoteChar (c : Char) : String :=
  String.ofList (['\''] ++ (if c = '\'' then ['\\', c] else escapeUnquoted c) ++ ['\''])

/-- A text between double quotes, the double quote escaped. -/
def quoteText (s : String) : String :=
  String.ofList
    (['"'] ++ s.toList.flatMap (fun c => if c = '"' then ['\\', c] else escapeUnquoted c) ++ ['"'])

/-- A list of texts, each between double quotes. -/
def quoteList (ss : List String) : String := "[" ++ ", ".intercalate (ss.map quoteText) ++ "]"

end Text
end Plantilla
