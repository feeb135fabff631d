import Mathlib.Data.List.Induction
import Plantilla.Position
import Plantilla.Proofs.Boundaries
/-!
# Positions — lines and columns, read and counted

A position is said here with no index: the text is read from its start (`Position.within`), and at a boundary that is
every character in front of it (`within_append`).  So the position of a boundary counts the newlines in front of its line
and the characters in front of it in its line (`counted_within`), never falling back to the start of a line, and a later
boundary has a later position (`order_within`).
-/
namespace Plantilla

open Text

namespace Text

/-- Byte `k` of a text stands between two of its characters, or at an end. -/
def IsBoundary (k : Nat) (cs : List Char) : Prop := ∃ pre post, cs = pre ++ post ∧ k = byteLength pre

theorem isBoundary_iff {k : Nat} {cs : List Char} : IsBoundary k cs ↔ (suffixAt k cs).isSome = true := by
  rw [Option.isSome_iff_exists]
  constructor
  · rintro ⟨pre, post, rfl, rfl⟩
    exact ⟨post, suffixAt_append pre post⟩
  · rintro ⟨post, h⟩
    obtain ⟨pre, hcs, hk⟩ := exists_append_of_suffixAt k cs post h
    exact ⟨pre, post, hcs, hk⟩

instance (k : Nat) (cs : List Char) : Decidable (IsBoundary k cs) := decidable_of_iff _ isBoundary_iff.symm

end Text

/-! ## Reading -/

namespace Position

/-- The position `k` bytes further on, from the position `p` at which the characters start. -/
def advance (p : Position) : Nat → List Char → Position
  | 0, _ => p
  | _ + 1, [] => p
  | k + 1, c :: cs =>
    if k + 1 < c.utf8Size then ⟨p.line, 1⟩
    else if c = '\n' then advance ⟨p.line + 1, 1⟩ (k + 1 - c.utf8Size) cs
    else advance ⟨p.line, p.column + 1⟩ (k + 1 - c.utf8Size) cs

def within (cs : List Char) (offset : Nat) : Position := advance ⟨1, 1⟩ offset cs

def ofOffset (source : String) (offset : Nat) : Position := within source.toList offset

/-- The position behind one more character. -/
def step (p : Position) (c : Char) : Position := if c = '\n' then ⟨p.line + 1, 1⟩ else ⟨p.line, p.column + 1⟩

/-- The position behind the characters of a text. -/
def behind (cs : List Char) : Position := cs.foldl step ⟨1, 1⟩

theorem advance_append (ds : List Char) (k : Nat) : ∀ (cs : List Char) (p : Position),
    advance p (byteLength cs + k) (cs ++ ds) = advance (cs.foldl step p) k ds
  | [], p => by rw [byteLength, Nat.zero_add]; rfl
  | c :: cs, p => by
    obtain ⟨n, hn⟩ := exists_byteLength_cons c cs
    have hoffset : c.utf8Size + byteLength cs + k = n + k + 1 := by omega
    have hrest : n + k + 1 - c.utf8Size = byteLength cs + k := by omega
    rw [byteLength, hoffset, List.cons_append, advance, if_neg (by omega), hrest, advance_append ds k cs,
      advance_append ds k cs, List.foldl_cons, step]
    split <;> rfl

theorem within_append (cs ds : List Char) : within (cs ++ ds) (byteLength cs) = behind cs := by
  have hbehind := advance_append ds 0 cs ⟨1, 1⟩
  rw [advance] at hbehind
  exact hbehind

theorem within_min (cs : List Char) (k : Nat) : within cs (min k (byteLength cs)) = within cs k := by
  rcases Nat.le_total k (byteLength cs) with hle | hle
  · rw [Nat.min_eq_left hle]
  · obtain ⟨j, rfl⟩ := Nat.exists_eq_add_of_le hle
    have hend := within_append cs []
    have hpast : within (cs ++ []) (byteLength cs + j) = behind cs := by
      rw [within, advance_append]
      cases j <;> rfl
    rw [List.append_nil] at hend hpast
    rw [Nat.min_eq_right hle, hend, hpast]

/-! ## Counting -/

/-- `p` is the position of byte `k`, counted: `k` stands behind the characters `line` of a line, which starts behind
the newlines of `above`. -/
def Counted (cs : List Char) (k : Nat) (p : Position) : Prop :=
  ∃ above line rest, cs = above ++ line ++ rest ∧ k = byteLength (above ++ line) ∧
    (above = [] ∨ above.getLast? = some '\n') ∧ '\n' ∉ line ∧ p = ⟨above.count '\n' + 1, line.length + 1⟩

theorem behind_concat (cs : List Char) (c : Char) : behind (cs ++ [c]) = step (behind cs) c := by
  rw [behind, List.foldl_append]
  rfl

theorem behind_eq (cs : List Char) : ∃ above line, cs = above ++ line ∧
    (above = [] ∨ above.getLast? = some '\n') ∧ '\n' ∉ line ∧ behind cs = ⟨above.count '\n' + 1, line.length + 1⟩ := by
  induction cs using List.reverseRecOn with
  | nil => exact ⟨[], [], rfl, .inl rfl, by simp, rfl⟩
  | append_singleton cs c ih =>
    obtain ⟨above, line, rfl, habove, hline, hbehind⟩ := ih
    rw [behind_concat, hbehind, step]
    by_cases hc : c = '\n'
    · subst hc
      refine ⟨above ++ line ++ ['\n'], [], by simp, .inr (by simp), by simp, ?_⟩
      rw [if_pos rfl, List.count_append, List.count_append, List.count_eq_zero_of_not_mem hline]
      rfl
    · refine ⟨above, line ++ [c], by simp, habove, by simp [hline, Ne.symm hc], ?_⟩
      rw [if_neg hc, List.length_append]
      rfl

/-- **The position at a boundary is the counted one.** -/
theorem counted_within {cs : List Char} {k : Nat} (h : IsBoundary k cs) : Counted cs k (within cs k) := by
  obtain ⟨pre, post, rfl, rfl⟩ := h
  obtain ⟨above, line, rfl, habove, hline, hbehind⟩ := behind_eq pre
  exact ⟨above, line, post, rfl, rfl, habove, hline, by rw [within_append, hbehind]⟩

example : within "a\nñb".toList 4 = ⟨2, 2⟩ := by decide

/-! ## Order -/

theorem order_eq_lt_iff {p q : Position} :
    p.order q = .lt ↔ p.line < q.line ∨ p.line = q.line ∧ p.column < q.column := by
  rw [order, Ordering.then_eq_lt, Nat.compare_eq_lt, Nat.compare_eq_lt, Nat.compare_eq_eq]

theorem ne_of_order {p q : Position} (h : p.order q = .lt) : p ≠ q := by
  rintro rfl
  rw [order_eq_lt_iff] at h
  omega

theorem order_trans {p q r : Position} (h : p.order q = .lt) (h' : q.order r = .lt) : p.order r = .lt := by
  rw [order_eq_lt_iff] at *
  omega

theorem order_step (p : Position) (c : Char) : p.order (step p c) = .lt := by
  rw [order_eq_lt_iff, step]
  by_cases hc : c = '\n'
  · rw [if_pos hc]
    exact .inl (Nat.lt_succ_self _)
  · rw [if_neg hc]
    exact .inr ⟨rfl, Nat.lt_succ_self _⟩

theorem order_behind_append (cs : List Char) : ∀ ds : List Char, ds ≠ [] →
    (behind cs).order (behind (cs ++ ds)) = .lt := by
  intro ds
  induction ds using List.reverseRecOn with
  | nil => exact fun h => absurd rfl h
  | append_singleton ds d ih =>
    intro _
    rw [← List.append_assoc, behind_concat]
    by_cases hds : ds = []
    · rw [hds, List.append_nil]
      exact order_step _ d
    · exact order_trans (ih hds) (order_step _ d)

/-- **A later boundary has a later position.** -/
theorem order_within {cs : List Char} {k k' : Nat} (h : IsBoundary k cs) (h' : IsBoundary k' cs) (hlt : k < k') :
    (within cs k).order (within cs k') = .lt := by
  obtain ⟨pre, post, hcs, rfl⟩ := h
  obtain ⟨pre', post', hcs', rfl⟩ := h'
  obtain ⟨es, rfl, _⟩ := exists_append_of_byteLength_le (hcs.symm.trans hcs') (Nat.le_of_lt hlt)
  have hne : es ≠ [] := by
    rintro rfl
    rw [List.append_nil] at hlt
    exact Nat.lt_irrefl _ hlt
  rw [hcs, within_append, ← hcs, hcs', within_append]
  exact order_behind_append pre es hne

end Position
end Plantilla
