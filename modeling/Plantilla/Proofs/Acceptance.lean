import Plantilla.Proofs.Trimming
/-!
# Acceptance — the verdict, what was told, and the template language

A text is accepted exactly when it is not blank and its trimmed scan is the tokens of a template, however matching would
go on after an error (`accepted_iff_template`): errors are told, a run that told anything is rejected, and a run that
told nothing has matched.  The same two facts make the verdict agree with the diagnostics (`verdict_iff_diagnostics`).
-/
namespace Plantilla

open Text

theorem Sink.reportAll_list : ∀ (ds kept : List Diagnostic), Sink.reportAll kept ds = kept ++ ds
  | [], kept => (List.append_nil kept).symm
  | d :: ds, kept => by
    show Sink.reportAll (kept ++ [d]) ds = kept ++ d :: ds
    rw [reportAll_list ds, List.append_assoc]
    rfl

namespace Recognition

theorem conclude_of_accepted {r : Recognition} (h : r.accepted = true) :
    r.conclude = (.accepted, r.matched.map Production.name) := if_pos h

theorem conclude_of_not_accepted {r : Recognition} (h : ¬ r.accepted = true) : r.conclude = (.rejected, none) := if_neg h

theorem matched_of_accepted {r : Recognition} (h : r.accepted = true) : ∃ p, r.matched = some p := by
  rw [accepted, Bool.and_eq_true] at h
  exact Option.isSome_iff_exists.1 h.1

end Recognition

namespace Checker

variable (c : Checker) {source : String}

/-- A check keeps nothing of what its sink held. -/
theorem check_list (source : String) (kept : List Diagnostic) :
    c.check source kept = (((c.report source).verdict, (c.report source).template), (c.report source).diagnostics) := by
  unfold report check
  cases innerItems source with
  | none => rfl
  | some items => rfl

theorem report_of_none (h : innerItems source = none) : c.report source = ⟨.empty, none, []⟩ := by
  unfold report check
  rw [h]
  rfl

theorem report_of_blank (h : Blank source.toList) : c.report source = ⟨.empty, none, []⟩ :=
  c.report_of_none (innerItems_of_blank h)

section Items

variable {items : List Item} (h : innerItems source = some items)
include h

theorem report_eq_conclude : c.report source = ⟨(recognize c.grammar c.recovery items).conclude.1,
    (recognize c.grammar c.recovery items).conclude.2, diagnose c.grammar c.recovery items⟩ := by
  unfold report check
  rw [h]
  show (⟨_, _, Sink.reportAll [] (diagnose c.grammar c.recovery items)⟩ : Report) = _
  rw [Sink.reportAll_list]
  rfl

theorem diagnostics_report : (c.report source).diagnostics = diagnose c.grammar c.recovery items := by
  rw [c.report_eq_conclude h]

theorem report_of_items :
    (diagnose c.grammar c.recovery items = [] ∧ ∃ p, (recognize c.grammar c.recovery items).matched = some p ∧
      c.report source = ⟨.accepted, some p.name, []⟩) ∨
    (diagnose c.grammar c.recovery items ≠ [] ∧
      c.report source = ⟨.rejected, none, diagnose c.grammar c.recovery items⟩) := by
  have hiff := accepted_recognize_iff c.grammar c.recovery items
  rw [c.report_eq_conclude h]
  by_cases hacc : (recognize c.grammar c.recovery items).accepted = true
  · obtain ⟨p, hp⟩ := Recognition.matched_of_accepted hacc
    refine .inl ⟨hiff.1 hacc, p, hp, ?_⟩
    rw [Recognition.conclude_of_accepted hacc, hp, hiff.1 hacc]
    rfl
  · refine .inr ⟨fun hnil => hacc (hiff.2 hnil), ?_⟩
    rw [Recognition.conclude_of_not_accepted hacc]

end Items

end Checker

/-! ## Only the templates of the start symbol count -/

section Congr

variable {g g' : Grammar} (h : g.productions = g'.productions)
include h

theorem Cursor.start_congr : Cursor.start g = Cursor.start g' := by rw [Cursor.start, Cursor.start, h]

theorem Matcher.next_congr (r : Recovery) : Matcher.next g r = Matcher.next g' r := by
  funext m item
  unfold Matcher.next Matcher.afterRefusal
  rw [Cursor.start_congr h]

theorem Matcher.reports_congr (r : Recovery) : ∀ (items : List Item) (m : Matcher),
    m.reports g r items = m.reports g' r items
  | [], _ => rfl
  | item :: items, m => by rw [Matcher.reports, Matcher.reports, reports_congr r items, Matcher.next_congr h]

theorem recognize_congr (r : Recovery) (items : List Item) : recognize g r items = recognize g' r items := by
  rw [recognize, recognize, Matcher.run, Matcher.run, Matcher.next_congr h, Matcher.start, Matcher.start,
    Cursor.start_congr h]

theorem diagnose_congr (r : Recovery) (items : List Item) : diagnose g r items = diagnose g' r items := by
  rw [diagnose, diagnose, Matcher.reports_congr h, Matcher.start, Matcher.start, Cursor.start_congr h]

end Congr

/-! ## The language of the templates -/

theorem Item.forall_token_map_shift (k : Nat) (items : List Item) :
    (∀ item ∈ items.map (Item.shift k), ∃ t, item = .token t) ↔ ∀ item ∈ items, ∃ t, item = .token t := by
  simp only [List.forall_mem_map]
  refine forall₂_congr fun item _ => ?_
  cases item <;> simp [Item.shift]

theorem Grammar.forall_iff_eq {g : Grammar} {ks : List Kind} {p : Production} (hp : p ∈ g.productions)
    (hkinds : p.kinds = ks) (q : Production) : q ∈ g.productions ∧ q.kinds = ks ↔ q = p := by
  constructor
  · rintro ⟨hq, hqkinds⟩
    exact Grammar.eq_of_kinds_eq hq hp (hqkinds.trans hkinds.symm)
  · rintro rfl
    exact ⟨hp, hkinds⟩

/-- Nothing but the tokens of a template is accepted as that template, in either mode. -/
theorem Checker.report_of_template (c : Checker) {source : String} {items : List Item}
    (h : innerItems source = some items) (htokens : ∀ item ∈ items, ∃ t, item = .token t) {p : Production}
    (hp : p ∈ c.grammar.productions) (hkinds : p.kinds = Item.kinds items) :
    c.report source = ⟨.accepted, some p.name, []⟩ := by
  have hsilent := (diagnose_eq_nil_iff c.grammar c.recovery items).2 ⟨htokens, p, hp, hkinds⟩
  rcases c.report_of_items h with ⟨_, q, hq, hreport⟩ | ⟨htold, _⟩
  · rw [matched_recognize hp hkinds, Option.some.injEq] at hq
    rw [hreport, hq]
  · exact absurd hsilent htold

theorem Checker.accepted_as_iff (c : Checker) {source : String} {items : List Item} (h : innerItems source = some items)
    (name : String) :
    (c.report source).verdict = .accepted ∧ (c.report source).template = some name ↔
      (∀ item ∈ items, ∃ t, item = .token t) ∧
        ∃ p ∈ c.grammar.productions, p.kinds = Item.kinds items ∧ p.name = name := by
  constructor
  · rcases c.report_of_items h with ⟨hnil, p, hmatched, hreport⟩ | ⟨_, hreport⟩
    · obtain ⟨htokens, q, hq, hkinds⟩ := (diagnose_eq_nil_iff c.grammar c.recovery items).1 hnil
      have hqp : q = p := Option.some.inj ((matched_recognize hq hkinds c.recovery).symm.trans hmatched)
      rw [hreport, ← hqp]
      exact fun ⟨_, hname⟩ => ⟨htokens, q, hq, hkinds, Option.some.inj hname⟩
    · rw [hreport]
      rintro ⟨hverdict, _⟩
      cases hverdict
  · rintro ⟨htokens, p, hp, hkinds, rfl⟩
    rw [c.report_of_template h htokens hp hkinds]
    exact ⟨rfl, rfl⟩

/-- **A text is accepted as a template exactly when it is one**, in either mode and whatever is owed after an error: it
is not blank, the scan of the trimmed text has no illegal character, and its kinds are those of one production of the
start symbol, the template.  Other productions of the grammar do not matter. -/
theorem accepted_iff_template (c : Checker) (source : String) :
    (∀ name, (c.report source).verdict = .accepted ∧ (c.report source).template = some name ↔
      ¬ Blank source.toList ∧ (∀ item ∈ trimmedScan source, ∃ t, item = .token t) ∧
      ∃ p, (∀ p', p' ∈ c.grammar.productions ∧ p'.kinds = Item.kinds (trimmedScan source) ↔ p' = p) ∧
        p.name = name) ∧
    ∀ g : Grammar, g.productions = c.grammar.productions →
      ({ c with grammar := g } : Checker).report source = c.report source := by
  constructor
  · intro name
    by_cases hb : Blank source.toList
    · rw [c.report_of_blank hb]
      simp [hb]
    · rw [c.accepted_as_iff (innerItems_of_not_blank hb), Item.forall_token_map_shift, Item.kinds_map_shift]
      constructor
      · rintro ⟨htokens, p, hp, hkinds, hname⟩
        exact ⟨hb, htokens, p, Grammar.forall_iff_eq hp hkinds, hname⟩
      · rintro ⟨_, htokens, p, hp, hname⟩
        obtain ⟨hmem, hkinds⟩ := (hp p).2 rfl
        exact ⟨htokens, p, hmem, hkinds, hname⟩
  · intro g hg
    unfold Checker.report Checker.check
    cases innerItems source with
    | none => rfl
    | some items =>
      simp only [recognizeInto, recognize_congr hg, diagnose_congr hg]

/-! ## The verdict and the diagnostics -/

theorem Checker.report_cases (c : Checker) (source : String) :
    (Blank source.toList ∧ c.report source = ⟨.empty, none, []⟩) ∨
    (¬ Blank source.toList ∧ ∃ p : Production, c.report source = ⟨.accepted, some p.name, []⟩) ∨
    (¬ Blank source.toList ∧ ∃ ds, ds ≠ [] ∧ c.report source = ⟨.rejected, none, ds⟩) := by
  by_cases hb : Blank source.toList
  · exact .inl ⟨hb, c.report_of_blank hb⟩
  · rcases c.report_of_items (innerItems_of_not_blank hb) with ⟨_, p, _, h⟩ | ⟨htold, h⟩
    · exact .inr (.inl ⟨hb, p, h⟩)
    · exact .inr (.inr ⟨hb, _, htold, h⟩)

/-- **The verdict says what was told.**  A blank text is empty, and then nothing was told and no template is named; any
other is accepted if nothing was told and rejected if something was, and a template is named exactly when it is
accepted.  An accepted text leaves nothing in a sink, whatever was in it before.  And nothing is rejected silently: a
matcher that owes tokens or has halted has told a grammatical diagnostic on its way. -/
theorem verdict_iff_diagnostics (c : Checker) (source : String) :
    ((c.report source).verdict = .empty ↔ Blank source.toList) ∧
    ((c.report source).verdict = .empty → (c.report source).diagnostics = [] ∧ (c.report source).template = none) ∧
    ((c.report source).verdict ≠ .empty →
      ((c.report source).verdict = .accepted ↔ (c.report source).diagnostics = []) ∧
      ((c.report source).verdict = .rejected ↔ (c.report source).diagnostics ≠ [])) ∧
    ((c.report source).template.isSome = true ↔ (c.report source).verdict = .accepted) ∧
    (∀ kept : List Diagnostic, (c.check source kept).1.1 = .accepted → (c.check source kept).2 = []) ∧
    ∀ items : List Item, ((Matcher.start c.grammar).run c.grammar c.recovery items).Silent →
      0 < ((Matcher.start c.grammar).run c.grammar c.recovery items).grammaticalErrors ∧
        ∃ d ∈ (Matcher.start c.grammar).told c.grammar c.recovery items, d.isGrammatical = true := by
  have hsilent := Matcher.told_of_silent c.grammar c.recovery
  simp only [c.check_list]
  rcases c.report_cases source with ⟨hb, h⟩ | ⟨hb, p, h⟩ | ⟨hb, ds, hds, h⟩
  · rw [h]
    exact ⟨⟨fun _ => hb, fun _ => rfl⟩, fun _ => ⟨rfl, rfl⟩, fun hne => absurd rfl hne, by simp, by simp, hsilent⟩
  · rw [h]
    exact ⟨⟨by simp, fun hblank => absurd hblank hb⟩, by simp, fun _ => by simp, by simp, fun _ _ => rfl, hsilent⟩
  · rw [h]
    exact ⟨⟨by simp, fun hblank => absurd hblank hb⟩, by simp, fun _ => by simp [hds], by simp, by simp, hsilent⟩

end Plantilla
