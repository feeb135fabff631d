import Mathlib.Data.List.Nodup
import Plantilla.Matching.Cursor
/-!
# Narrowing — a cursor is what it has consumed

The live templates of a cursor are the templates that begin with the kinds consumed since its start, in declaration
order, and its position is their number (`Cursor.after`).  So advancing is appending a kind (`advance?_after`), and
the completed template is the one whose kinds are exactly the consumed ones (`completed?_after_eq_some_iff`): there is
at most one, because no two templates of a grammar have the same kinds.
-/
namespace Plantilla

/-! ## What kinds begin -/

namespace Grammar

/-- Some template begins with these kinds. -/
def Begins (g : Grammar) (ks : List Kind) : Prop := ∃ p ∈ g.productions, ks <+: p.kinds

instance (g : Grammar) (ks : List Kind) : Decidable (g.Begins ks) :=
  inferInstanceAs (Decidable (∃ p ∈ g.productions, ks <+: p.kinds))

/-- The kinds that the templates beginning with `ks` have next, each once, in declaration order. -/
def expectedAfter (g : Grammar) (ks : List Kind) : List Kind :=
  distinct ((g.productions.filter fun p => ks <+: p.kinds).filterMap (·.expects ks.length))

theorem begins_nil (g : Grammar) : g.Begins [] := by
  obtain ⟨p, hp⟩ := List.exists_mem_of_ne_nil _ g.productions_ne_nil
  exact ⟨p, hp, List.nil_prefix⟩

theorem Begins.of_prefix {g : Grammar} {ks ls : List Kind} (h : g.Begins ls) (hk : ks <+: ls) : g.Begins ks := by
  obtain ⟨p, hp, hl⟩ := h
  exact ⟨p, hp, hk.trans hl⟩

theorem kinds_ne_nil {g : Grammar} {p : Production} (hp : p ∈ g.productions) : p.kinds ≠ [] :=
  g.productions_unambiguous.1 p hp

/-- **The kinds of a template name it.** -/
theorem eq_of_kinds_eq {g : Grammar} {p q : Production} (hp : p ∈ g.productions) (hq : q ∈ g.productions)
    (h : p.kinds = q.kinds) : p = q :=
  List.inj_on_of_nodup_map g.productions_unambiguous.2 hp hq h

end Grammar

/-! ## The cursor after some kinds -/

namespace Cursor

/-- The cursor that has consumed these kinds since its start. -/
def after (g : Grammar) (ks : List Kind) : Cursor := ⟨g.productions.filter fun p => ks <+: p.kinds, ks.length⟩

theorem after_nil (g : Grammar) : after g [] = start g := by simp [after, start]

theorem concat_prefix_iff (k : Kind) : ∀ (ks ls : List Kind), ks ++ [k] <+: ls ↔ ks <+: ls ∧ ls[ks.length]? = some k
  | [], [] => by simp
  | [], l :: ls => by simp [List.cons_prefix_cons, eq_comm]
  | k' :: ks, [] => by simp
  | k' :: ks, l :: ls => by simp [List.cons_prefix_cons, concat_prefix_iff k ks ls, and_assoc]

theorem filter_expects (g : Grammar) (ks : List Kind) (k : Kind) :
    ((after g ks).live.filter fun p => p.expects ks.length = some k) = (after g (ks ++ [k])).live := by
  simp only [after, List.filter_filter]
  apply List.filter_congr
  intro p _
  rw [Bool.eq_iff_iff, Bool.and_eq_true, decide_eq_true_eq, decide_eq_true_eq, decide_eq_true_eq, concat_prefix_iff]
  exact and_comm

theorem mem_live_after {g : Grammar} {ks : List Kind} {p : Production} :
    p ∈ (after g ks).live ↔ p ∈ g.productions ∧ ks <+: p.kinds := by
  simp [after]

/-- **Advancing appends a kind**, if some template still begins with all of them. -/
theorem advance?_after (g : Grammar) (ks : List Kind) (k : Kind) :
    (after g ks).advance? k = if g.Begins (ks ++ [k]) then some (after g (ks ++ [k])) else none := by
  unfold advance?
  split
  · rename_i hfilter
    have hlive : (after g (ks ++ [k])).live = [] := (filter_expects g ks k).symm.trans hfilter
    have hno : ¬ g.Begins (ks ++ [k]) := by
      rintro ⟨p, hp, hk⟩
      have hmem := mem_live_after.2 ⟨hp, hk⟩
      rw [hlive] at hmem
      cases hmem
    rw [if_neg hno]
  · rename_i p ps hfilter
    have hlive : (after g (ks ++ [k])).live = p :: ps := (filter_expects g ks k).symm.trans hfilter
    have hmem : p ∈ (after g (ks ++ [k])).live := by rw [hlive]; exact List.mem_cons_self
    have hbegins : g.Begins (ks ++ [k]) := ⟨p, mem_live_after.1 hmem⟩
    have hpos : (after g ks).position + 1 = (after g (ks ++ [k])).position := by simp [after]
    rw [if_pos hbegins, ← hlive, hpos]

theorem expected_after (g : Grammar) (ks : List Kind) : (after g ks).expected = g.expectedAfter ks := rfl

/-- **The completed template has exactly the consumed kinds.** -/
theorem completed?_after_eq_some_iff (g : Grammar) (ks : List Kind) (p : Production) :
    (after g ks).completed? = some p ↔ p ∈ g.productions ∧ p.kinds = ks := by
  have hcomplete : ∀ q ∈ (after g ks).live,
      (0 < (after g ks).position && q.kinds.length = (after g ks).position) = true → q ∈ g.productions ∧ q.kinds = ks := by
    intro q hq hlen
    obtain ⟨hmem, hk⟩ := mem_live_after.1 hq
    rw [Bool.and_eq_true, decide_eq_true_eq, decide_eq_true_eq] at hlen
    exact ⟨hmem, (hk.eq_of_length hlen.2.symm).symm⟩
  constructor
  · intro h
    exact hcomplete p (List.mem_of_find?_eq_some h) (by simpa using List.find?_some h)
  · rintro ⟨hp, rfl⟩
    have hpos : 0 < p.kinds.length := List.length_pos_of_ne_nil (Grammar.kinds_ne_nil hp)
    have hlive : p ∈ (after g p.kinds).live := mem_live_after.2 ⟨hp, List.prefix_refl _⟩
    cases hfind : (after g p.kinds).completed? with
    | none =>
      have := List.find?_eq_none.1 hfind p hlive
      simp [after, hpos] at this
    | some q =>
      obtain ⟨hq, hkinds⟩ := hcomplete q (List.mem_of_find?_eq_some hfind) (by simpa using List.find?_some hfind)
      rw [Grammar.eq_of_kinds_eq hq hp hkinds]

end Cursor
end Plantilla
