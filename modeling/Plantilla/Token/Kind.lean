/-!
# Kind — the closed vocabulary of the language

The scanner gives every token a kind, and a template is a list of kinds, so this type is all that the two share.
The names are the ones of the teaching material, which is why the comma is called `GT`.
-/
namespace Plantilla

inductive Kind where
  | plus | lparen | rparen | lbrace | rbrace | semi | assign | comma | less
  | number | ident | quoted
  | intWord | textWord | mainWord | funcWord | ifWord | elseWord | returnWord
  | repeatWord | bodyWord | fromWord | untilWord | varWord
deriving DecidableEq, Repr

namespace Kind

/-- The upper-case name under which a kind is printed. -/
def name : Kind → String
  | plus => "PLUS"
  | lparen => "LPAREN"
  | rparen => "RPAREN"
  | lbrace => "LBRACE"
  | rbrace => "RBRACE"
  | semi => "SEMI"
  | assign => "ASSIGN"
  | comma => "GT"
  | less => "LT"
  | number => "NUMBER"
  | ident => "ID"
  | quoted => "DOUBLESTRING"
  | intWord => "INT"
  | textWord => "STRING"
  | mainWord => "MAIN"
  | funcWord => "FUNN"
  | ifWord => "IF"
  | elseWord => "IFELSE"
  | returnWord => "RETURN"
  | repeatWord => "REPITE"
  | bodyWord => "CONTENIDO"
  | fromWord => "DESDE"
  | untilWord => "HASTA"
  | varWord => "VAR"

/-- Every kind, punctuation first and reserved words last. -/
def all : List Kind :=
  [plus, lparen, rparen, lbrace, rbrace, semi, assign, comma, less, number, ident, quoted,
   intWord, textWord, mainWord, funcWord, ifWord, elseWord, returnWord, repeatWord, bodyWord,
   fromWord, untilWord, varWord]

def ofName? (s : String) : Option Kind := all.find? fun k => k.name == s

end Kind
end Plantilla
