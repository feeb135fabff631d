import Plantilla.Proofs.Accounting
import Plantilla.Proofs.Narrowing
/-!
# Following — a matcher inside a template

As long as it matches, a matcher's cursor is the one after the kinds consumed since its last start (`Follows`), in
either mode and whatever it owes.  A token either lengthens those kinds or is refused, and which of the two is a
question to the grammar alone.  Before the first refusal nothing is owed (`told_eq_nil_iff`): such a run tells nothing
exactly when every item is a token and the kinds begin a template.
-/
namespace Plantilla

def Item.kinds (items : List Item) : List Kind := (Item.tokens items).map Token.kind

theorem Item.kinds_nil : kinds [] = [] := rfl

theorem Item.kinds_token (t : Token) (items : List Item) : kinds (.token t :: items) = t.kind :: kinds items := rfl

namespace Matcher

/-- The matcher is matching, and has consumed `seg` since its last start. -/
structure Follows (g : Grammar) (seg : List Kind) (m : Matcher) : Prop where
  cursor : m.cursor = Cursor.after g seg
  halted : m.halted = false

theorem follows_start (g : Grammar) : Follows g [] (start g) := ⟨(Cursor.after_nil g).symm, rfl⟩

namespace Follows

variable {g : Grammar} {seg : List Kind} {m : Matcher} {t : Token}

theorem advance? (h : Follows g seg m) (k : Kind) :
    m.cursor.advance? k = if g.Begins (seg ++ [k]) then some (Cursor.after g (seg ++ [k])) else none := by
  rw [h.cursor, Cursor.advance?_after]

theorem next_of_begins (h : Follows g seg m) (r : Recovery) (hk : g.Begins (seg ++ [t.kind])) :
    m.next g r (.token t) = { m with
      stop := t.span.stop, tokens := m.tokens + 1, cursor := Cursor.after g (seg ++ [t.kind]), quiet := m.quiet - 1 } :=
  next_of_advance g r h.halted ((h.advance? _).trans (if_pos hk))

theorem quiet_next (h : Follows g seg m) (r : Recovery) (hk : g.Begins (seg ++ [t.kind])) :
    (m.next g r (.token t)).quiet = m.quiet - 1 := by rw [h.next_of_begins r hk]

theorem report_of_begins (h : Follows g seg m) (hk : g.Begins (seg ++ [t.kind])) : m.report (.token t) = [] :=
  report_of_advance h.halted ((h.advance? _).trans (if_pos hk))

theorem next_of_not_begins (h : Follows g seg m) (r : Recovery) (hk : ¬ g.Begins (seg ++ [t.kind])) :
    m.next g r (.token t) = afterRefusal g r { m with stop := t.span.stop, tokens := m.tokens + 1 } :=
  next_of_refusal g r h.halted ((h.advance? _).trans (if_neg hk))

theorem report_of_not_begins (h : Follows g seg m) (hk : ¬ g.Begins (seg ++ [t.kind])) :
    m.report (.token t) = if m.quiet = 0 then [.unexpectedToken t (g.expectedAfter seg)] else [] := by
  rw [report_of_refusal h.halted ((h.advance? _).trans (if_neg hk)), h.cursor, Cursor.expected_after]

theorem illegal (h : Follows g seg m) (r : Recovery) (c : Char) (span : Span) :
    Follows g seg (m.next g r (.illegal c span)) := ⟨h.cursor, h.halted⟩

theorem advance (h : Follows g seg m) (r : Recovery) (hk : g.Begins (seg ++ [t.kind])) :
    Follows g (seg ++ [t.kind]) (m.next g r (.token t)) := by
  rw [h.next_of_begins r hk]
  exact ⟨rfl, h.halted⟩

theorem matched_finish (h : Follows g seg m) (p : Production) :
    m.finish.matched = some p ↔ p ∈ g.productions ∧ p.kinds = seg := by
  rw [← Cursor.completed?_after_eq_some_iff, ← h.cursor]
  unfold Matcher.finish
  rw [h.halted]
  cases m.cursor.completed? <;> simp

theorem finalReport_eq (h : Follows g seg m) :
    m.finalReport = if m.finish.matched = none ∧ m.quiet = 0
      then [.unexpectedEnd m.stop (g.expectedAfter seg)] else [] := by
  rw [← Cursor.expected_after, ← h.cursor]
  unfold Matcher.finish Matcher.finalReport
  rw [h.halted]
  cases m.cursor.completed? <;> simp

end Follows

/-! ## Before the first refusal -/

theorem follows_run_of_begins (g : Grammar) (r : Recovery) : ∀ (items : List Item) (seg : List Kind) (m : Matcher),
    Follows g seg m → m.quiet = 0 → g.Begins (seg ++ Item.kinds items) →
      Follows g (seg ++ Item.kinds items) (m.run g r items) ∧ (m.run g r items).quiet = 0
  | [], seg, m, hm, hq, _ => by
    rw [Item.kinds_nil, List.append_nil]
    exact ⟨hm, hq⟩
  | .illegal c span :: items, seg, m, hm, hq, hb =>
    follows_run_of_begins g r items seg _ (hm.illegal r c span) hq hb
  | .token t :: items, seg, m, hm, hq, hb => by
    rw [Item.kinds_token, List.append_cons] at hb ⊢
    have hk : g.Begins (seg ++ [t.kind]) := hb.of_prefix (List.prefix_append _ _)
    exact follows_run_of_begins g r items _ _ (hm.advance r hk) (by rw [hm.quiet_next r hk, hq]) hb

/-- **Nothing is told exactly when every item is a token and the kinds begin a template.** -/
theorem told_eq_nil_iff (g : Grammar) (r : Recovery) : ∀ (items : List Item) (seg : List Kind) (m : Matcher),
    Follows g seg m → m.quiet = 0 → g.Begins seg →
      (m.told g r items = [] ↔ (∀ item ∈ items, ∃ t, item = .token t) ∧ g.Begins (seg ++ Item.kinds items))
  | [], seg, m, _, _, hb => by simp [told, Item.kinds, Item.tokens, hb]
  | .illegal c span :: items, seg, m, _, _, _ => by simp [told, report]
  | .token t :: items, seg, m, hm, hq, _ => by
    rw [Item.kinds_token, List.append_cons, told, List.append_eq_nil_iff]
    by_cases hk : g.Begins (seg ++ [t.kind])
    · have hq' : (m.next g r (.token t)).quiet = 0 := by rw [hm.quiet_next r hk, hq]
      rw [told_eq_nil_iff g r items _ _ (hm.advance r hk) hq' hk]
      simp [hm.report_of_begins hk]
    · rw [hm.report_of_not_begins hk, if_pos hq]
      constructor
      · rintro ⟨h, _⟩
        cases h
      · rintro ⟨_, hb⟩
        exact absurd (hb.of_prefix (List.prefix_append _ _)) hk

end Matcher

/-! ## Runs from the start -/

/-- **A run tells nothing exactly when its items are the tokens of a template**, in either mode. -/
theorem diagnose_eq_nil_iff (g : Grammar) (r : Recovery) (items : List Item) :
    diagnose g r items = [] ↔
      (∀ item ∈ items, ∃ t, item = .token t) ∧ ∃ p ∈ g.productions, p.kinds = Item.kinds items := by
  have htold := Matcher.told_eq_nil_iff g r items [] _ (Matcher.follows_start g) rfl g.begins_nil
  have hrun := Matcher.follows_run_of_begins g r items [] _ (Matcher.follows_start g) rfl
  rw [List.nil_append] at htold hrun
  rw [diagnose, Matcher.reports_eq_told_append, List.append_eq_nil_iff, htold]
  constructor
  · rintro ⟨⟨htokens, hb⟩, hfinal⟩
    obtain ⟨hend, hquiet⟩ := hrun hb
    rw [hend.finalReport_eq] at hfinal
    cases hmatched : ((Matcher.start g).run g r items).finish.matched with
    | none => simp [hmatched, hquiet] at hfinal
    | some p => exact ⟨htokens, p, (hend.matched_finish p).1 hmatched⟩
  · rintro ⟨htokens, p, hp, hkinds⟩
    have hb : g.Begins (Item.kinds items) := ⟨p, hp, hkinds ▸ List.prefix_refl _⟩
    obtain ⟨hend, _⟩ := hrun hb
    refine ⟨⟨htokens, hb⟩, ?_⟩
    rw [hend.finalReport_eq, (hend.matched_finish p).2 ⟨hp, hkinds⟩]
    simp

theorem matched_recognize {g : Grammar} {p : Production} {items : List Item} (hp : p ∈ g.productions)
    (hkinds : p.kinds = Item.kinds items) (r : Recovery) : (recognize g r items).matched = some p := by
  have hrun := Matcher.follows_run_of_begins g r items [] _ (Matcher.follows_start g) rfl
  rw [List.nil_append] at hrun
  exact ((hrun ⟨p, hp, hkinds ▸ List.prefix_refl _⟩).1.matched_finish p).2 ⟨hp, hkinds⟩

end Plantilla
