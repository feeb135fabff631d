import Plantilla.Token.Kind
/-!
# Reserved — the words that are not identifiers

A word-shaped lexeme is looked up here once: a hit gives its kind, a miss leaves it an identifier.
-/
namespace Plantilla
namespace Reserved

/-- The reserved spellings with their kinds, in alphabetical order. -/
def table : List (String × Kind) :=
  [("asd", .textWord), ("contenido", .bodyWord), ("desde", .fromWord), ("funn", .funcWord),
   ("hasta", .untilWord), ("inn", .mainWord), ("int", .intWord), ("repite", .repeatWord),
   ("return", .returnWord), ("si", .ifWord), ("sino", .elseWord), ("var", .varWord)]

def kind? (word : String) : Option Kind := table.lookup word

/-- The kind of a word: its reserved kind, or an identifier. -/
def classify (word : String) : Kind := (kind? word).getD .ident

def words : List String := table.map Prod.fst

end Reserved
end Plantilla
