import Plantilla.Grammar
/-!
# Cursor — the templates that still agree

Every template is a flat list, so all there is to know about a partial match is how many tokens were consumed since
the last start and which templates begin with them.  A token narrows that list; a token that would empty it is
refused, and the cursor stays where it was.  Nothing is read twice.
-/
namespace Plantilla

/-- The live templates, and how many of their kinds are matched. -/
structure Cursor where
  live : List Production
  position : Nat
deriving DecidableEq, Repr

namespace Cursor

/-- Before any token: every template of the start symbol is live. -/
def start (g : Grammar) : Cursor := ⟨g.productions, 0⟩

/-- The cursor past a token of this kind, if a live template expects it. -/
def advance? (c : Cursor) (kind : Kind) : Option Cursor :=
  match c.live.filter fun p => p.expects c.position = some kind with
  | [] => none
  | p :: ps => some ⟨p :: ps, c.position + 1⟩

/-- The kinds that the live templates expect next, each once, in declaration order. -/
def expected (c : Cursor) : List Kind := distinct (c.live.filterMap (·.expects c.position))

/-- The live template that is matched to its end. -/
def completed? (c : Cursor) : Option Production :=
  c.live.find? fun p => 0 < c.position && p.kinds.length = c.position

/-- The names of the live templates, each once. -/
def names (c : Cursor) : List String := distinct (c.live.map Production.name)

end Cursor
end Plantilla
