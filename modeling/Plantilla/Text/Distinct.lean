/-!
# Distinct — a list without its repeats

Names and kinds are listed in the order in which they first come up, each once.
-/
namespace Plantilla

/-- The first occurrence of each entry, in order. -/
def distinct {α : Type} [DecidableEq α] : List α → List α
  | [] => []
  | a :: as => a :: (distinct as).filter (· ≠ a)

end Plantilla
