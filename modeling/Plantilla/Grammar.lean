import Plantilla.Text.Distinct
import Plantilla.Token.Kind
/-!
# Grammar — templates as flat lists of kinds

A production is a name and the kinds it expects, one after the other.  A grammar holds the productions of one start
symbol, and beside them *detached* ones that no program can reach.  Kind lists are never empty and never repeat
within a list of productions, so a sequence of kinds is the sequence of at most one template.  Those facts are
fields of `Grammar`: `Grammar.make` and `Grammar.withDetached` are the only doors, and they blame the first offender.
-/
namespace Plantilla

/-- One template: a name, and the kinds it expects in order. -/
structure Production where
  name : String
  kinds : List Kind
deriving DecidableEq, Repr

namespace Production

def expects (p : Production) (position : Nat) : Option Kind := p.kinds[position]?

/-- How a production is written: `name : KIND KIND`. -/
def display (p : Production) : String := p.name ++ " : " ++ " ".intercalate (p.kinds.map Kind.name)

end Production

inductive Grammar.Fault where
  | noProductions (start : String)
  | emptyProduction (name : String)
  | duplicateProduction (name : String)
deriving DecidableEq, Repr

def Grammar.Fault.message : Grammar.Fault → String
  | .noProductions start => "start symbol '" ++ start ++ "' has no productions"
  | .emptyProduction name => "production '" ++ name ++ "' expects no tokens"
  | .duplicateProduction name => "production '" ++ name ++ "' repeats the sequence of an earlier production"

/-! ## The check of a list of productions -/

/-- No production is empty, and no two expect the same kinds. -/
def Unambiguous (ps : List Production) : Prop :=
  (∀ p ∈ ps, p.kinds ≠ []) ∧ (ps.map Production.kinds).Nodup

/-- The first production that is empty or repeats one of the kind lists in `seen` or before it. -/
def firstFault (seen : List (List Kind)) : List Production → Option Grammar.Fault
  | [] => none
  | p :: ps =>
    if p.kinds = [] then some (.emptyProduction p.name)
    else if p.kinds ∈ seen then some (.duplicateProduction p.name)
    else firstFault (p.kinds :: seen) ps

theorem firstFault_eq_none_iff : ∀ (ps : List Production) (seen : List (List Kind)),
    firstFault seen ps = none ↔ Unambiguous ps ∧ ∀ p ∈ ps, p.kinds ∉ seen
  | [], seen => by simp [firstFault, Unambiguous]
  | p :: ps, seen => by
    unfold firstFault
    by_cases he : p.kinds = []
    · simp [he, Unambiguous]
    · by_cases hs : p.kinds ∈ seen
      · simp [he, hs]
      · rw [if_neg he, if_neg hs, firstFault_eq_none_iff ps]
        simp only [Unambiguous, List.mem_cons, forall_eq_or_imp, List.map_cons, List.nodup_cons,
          List.mem_map, not_exists, not_and, not_or]
        constructor
        · rintro ⟨⟨hne, hnd⟩, hout⟩
          exact ⟨⟨⟨he, hne⟩, fun q hq => (hout q hq).1, hnd⟩, hs, fun q hq => (hout q hq).2⟩
        · rintro ⟨⟨⟨_, hne⟩, hfresh, hnd⟩, _, hout⟩
          exact ⟨⟨hne, hnd⟩, fun q hq => ⟨hfresh q hq, hout q hq⟩⟩

theorem unambiguous_of_firstFault {ps : List Production} (h : firstFault [] ps = none) : Unambiguous ps :=
  ((firstFault_eq_none_iff ps []).1 h).1

theorem unambiguous_nil : Unambiguous [] := by simp [Unambiguous]

/-! ## Grammars -/

/-- The templates of a start symbol, with the detached ones beside them. -/
structure Grammar where
  start : String
  productions : List Production
  detached : List Production
  productions_ne_nil : productions ≠ []
  productions_unambiguous : Unambiguous productions
  detached_unambiguous : Unambiguous detached

namespace Grammar

def make (start : String) (ps : List Production) : Except Fault Grammar :=
  if hne : ps = [] then .error (.noProductions start)
  else
    match hf : firstFault [] ps with
    | some fault => .error fault
    | none => .ok ⟨start, ps, [], hne, unambiguous_of_firstFault hf, unambiguous_nil⟩

/-- The grammar with these detached productions; they may repeat productions of the start symbol. -/
def withDetached (g : Grammar) (ps : List Production) : Except Fault Grammar :=
  match hf : firstFault [] ps with
  | some fault => .error fault
  | none => .ok { g with detached := ps, detached_unambiguous := unambiguous_of_firstFault hf }

/-- The names of the templates, each once, in declaration order. -/
def templateNames (g : Grammar) : List String := distinct (g.productions.map Production.name)

/-- The kinds with which a program can start, each once, in declaration order. -/
def firstKinds (g : Grammar) : List Kind := distinct (g.productions.filterMap (·.expects 0))

end Grammar
end Plantilla
