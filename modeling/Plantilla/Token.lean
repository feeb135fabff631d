import Plantilla.Text.Numeral
import Plantilla.Token.Kind
/-!
# Token — a classified lexeme and where it stands

A token keeps three things beside its kind: a value (a number, or the lexeme itself), the text under which messages
name it, and its span.  The text is the value's own text but for a number too large for 64 bits: the value stops at
the largest word, and the text still names the number exactly.
-/
namespace Plantilla

/-- The bytes `start..stop` of a source, half open. -/
structure Span where
  start : Nat
  stop : Nat
deriving DecidableEq, Repr

/-- What a token carries: a number that fits in 64 bits, or the lexeme. -/
inductive Token.Value where
  | integer (n : Nat)
  | text (s : String)
deriving DecidableEq, Repr

def Token.Value.render : Token.Value → String
  | .integer n => Numeral.text n
  | .text s => s

structure Token where
  kind : Kind
  value : Token.Value
  text : String
  span : Span
deriving DecidableEq, Repr

namespace Token

/-- A token named by its value's text. -/
def make (kind : Kind) (value : Value) (span : Span) : Token := ⟨kind, value, value.render, span⟩

def ofLexeme (kind : Kind) (lexeme : List Char) (span : Span) : Token :=
  make kind (.text (String.ofList lexeme)) span

/-- A number token: past 64 bits the value is the largest word, and the text keeps the digits without the zeros in
front. -/
def ofDigits (digits : List Char) (span : Span) : Token :=
  if Numeral.ofDigits digits ≤ Numeral.maxWord then make .number (.integer (Numeral.ofDigits digits)) span
  else ⟨.number, .integer Numeral.maxWord, String.ofList (digits.dropWhile (· == '0')), span⟩

/-- How a token is written in the log: `KIND(text)`. -/
def display (t : Token) : String := t.kind.name ++ "(" ++ t.text ++ ")"

/-- Whether the value fell short of the number that the text names. -/
def isSaturated (t : Token) : Bool := t.text ≠ t.value.render

end Token
end Plantilla
