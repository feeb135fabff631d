import Plantilla.Proofs.Items
/-!
# Rebase — a scan does not know where it stands

A scanner counts offsets from its own, and reads nothing of it: from another offset the same characters give the same
items with their spans shifted (`items_add`).
-/
namespace Plantilla

open Text

/-- A span `k` bytes further on. -/
def Span.shift (k : Nat) (s : Span) : Span := ⟨s.start + k, s.stop + k⟩

def Token.shift (k : Nat) (t : Token) : Token := { t with span := t.span.shift k }

def Item.shift (k : Nat) : Item → Item
  | .token t => .token (t.shift k)
  | .illegal c span => .illegal c (span.shift k)

theorem Item.tokens_map_shift (k : Nat) : ∀ items : List Item,
    tokens (items.map (shift k)) = (tokens items).map (Token.shift k)
  | [] => rfl
  | .token t :: items => congrArg (t.shift k :: ·) (tokens_map_shift k items)
  | .illegal _ _ :: items => tokens_map_shift k items

theorem Found.token_add (f : Found) (o k : Nat) : f.token (o + k) = (f.token o).shift k := by
  unfold Found.token
  rw [Nat.add_right_comm]
  cases f.shape with
  | number => simp only [Token.ofDigits]; split <;> rfl
  | mark kind => rfl
  | word => rfl
  | quoted => rfl

namespace Scanner

/-- **From `k` bytes further on, the same characters give the same items, `k` bytes further on.** -/
theorem items_add (cs : List Char) (k : Nat) : ∀ o : Nat,
    (⟨o + k, cs⟩ : Scanner).items = (⟨o, cs⟩ : Scanner).items.map (Item.shift k) := by
  induction cs using scan_induction with
  | nil =>
    intro o
    rw [items_nil, items_nil]
    rfl
  | gap c cs hc ih =>
    intro o
    rw [items_of_isGap hc, items_of_isGap hc, Nat.add_right_comm, ih]
  | lexeme c cs f hc hf ih =>
    intro o
    rw [items_of_lexeme hc hf, items_of_lexeme hc hf, Nat.add_right_comm, ih, Found.token_add]
    rfl
  | illegal c cs hc hf ih =>
    intro o
    rw [items_of_unmatched hc hf, items_of_unmatched hc hf, Nat.add_right_comm, ih]
    rfl

end Scanner
end Plantilla
