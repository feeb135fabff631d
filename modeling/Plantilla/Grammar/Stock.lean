import Plantilla.Grammar
/-!
# Stock — the templates of the teaching language

Five templates in six productions: the function, the two declarations, the main function, the conditional and the
loop.  Three of them begin with the declaration of a number.  The conditions are defined and never reached.
-/
namespace Plantilla
namespace Grammar

def stockProductions : List Production :=
  [⟨"function", [.funcWord, .ident, .lparen, .intWord, .ident, .comma, .intWord, .ident, .rparen, .lbrace,
      .returnWord, .ident, .plus, .ident, .semi, .rbrace]⟩,
   ⟨"declaration", [.varWord, .intWord, .ident, .semi]⟩,
   ⟨"declaration", [.varWord, .textWord, .ident, .semi]⟩,
   ⟨"main", [.funcWord, .mainWord, .lparen, .rparen, .lbrace, .varWord, .intWord, .ident, .semi, .ident, .assign,
      .ident, .lparen, .number, .comma, .number, .rparen, .semi, .rbrace]⟩,
   ⟨"conditional", [.varWord, .intWord, .ident, .semi, .ident, .assign, .number, .semi, .ifWord, .ident, .less,
      .number, .lbrace, .bodyWord, .rbrace, .elseWord, .lbrace, .bodyWord, .rbrace]⟩,
   ⟨"loop", [.varWord, .intWord, .ident, .semi, .repeatWord, .ident, .fromWord, .number, .untilWord, .number,
      .lbrace, .bodyWord, .rbrace]⟩]

/-- The comparison signs, which no template uses. -/
def stockDetached : List Production :=
  [⟨"condition", [.less]⟩, ⟨"condition", [.comma]⟩, ⟨"condition", [.comma, .comma]⟩]

/-- The grammar of the teaching language. -/
def stock : Grammar where
  start := "completo"
  productions := stockProductions
  detached := stockDetached
  productions_ne_nil := by simp [stockProductions]
  productions_unambiguous := unambiguous_of_firstFault (by decide)
  detached_unambiguous := unambiguous_of_firstFault (by decide)

end Grammar
end Plantilla
