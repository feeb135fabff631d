import Plantilla.Proofs.Ordering
/-!
# Window — the part of a scan that a check sees

A check cuts the blanks off a text and scans the rest, where *blank* is wider than the three characters that a scan
skips.  It could as well scan the whole text and look at the bytes between the blanks alone (`Text.core`): every item
lies in there or is an illegal blank outside (`innerItems_eq_filter`).  No item reaches across an edge of the core, so
the cut neither splits a token nor leaves a string open.
-/
namespace Plantilla

open Text

/-- The bytes between the blanks at the ends. -/
def Text.core (cs : List Char) : Span := ⟨byteLength (leadingBlanks cs), byteLength (trimEnd cs)⟩

def Span.Within (outer s : Span) : Prop := outer.start ≤ s.start ∧ s.stop ≤ outer.stop

instance (outer : Span) : DecidablePred outer.Within := fun _ => inferInstanceAs (Decidable (_ ∧ _))

namespace Scanner

variable {o : Nat} {cs : List Char} {item : Item}

/-- An item is not empty, and stands inside the scanned characters. -/
theorem span_of_mem_items (h : item ∈ (⟨o, cs⟩ : Scanner).items) :
    o ≤ item.span.start ∧ item.span.start < item.span.stop ∧ item.span.stop ≤ o + byteLength cs := by
  have hmunch := (munch_iff cs o _).2 rfl
  have hmem := List.mem_map_of_mem (f := Item.piece) h
  have hne := hmunch.nonempty _ hmem
  obtain ⟨pre, w, rest, htext, hspan, _⟩ := hmunch.placed _ hmem
  have hlen : byteLength cs = byteLength pre + byteLength w + byteLength rest := by
    rw [htext, byteLength_append, byteLength_append]
  rw [Item.span_piece] at hne hspan
  rw [hspan] at hne ⊢
  simp only at hne ⊢
  omega

theorem within_of_mem_items (h : item ∈ (⟨o, cs⟩ : Scanner).items) :
    Span.Within ⟨o, o + byteLength cs⟩ item.span :=
  ⟨(span_of_mem_items h).1, (span_of_mem_items h).2.2⟩

theorem not_within_of_stop_le {outer : Span} (h : item ∈ (⟨o, cs⟩ : Scanner).items)
    (hle : o + byteLength cs ≤ outer.start) : ¬ outer.Within item.span := by
  rintro ⟨hstart, _⟩
  have := span_of_mem_items h
  omega

theorem not_within_of_le_start {outer : Span} (h : item ∈ (⟨o, cs⟩ : Scanner).items) (hle : outer.stop ≤ o) :
    ¬ outer.Within item.span := by
  rintro ⟨_, hstop⟩
  have := span_of_mem_items h
  omega

end Scanner

theorem Item.illegals_filter (outer : Span) : ∀ items : List Item,
    illegals (items.filter fun item => outer.Within item.span)
      = (illegals items).filter fun d => outer.Within d.span
  | [] => rfl
  | .token t :: items => by
    have ih := illegals_filter outer items
    rw [List.filter_cons]
    split <;> exact ih
  | .illegal c span :: items => by
    have ih := illegals_filter outer items
    have hitem : (Item.illegal c span).span = span := rfl
    have htold : (Diagnostic.illegalCharacter c span).span = span := rfl
    rw [illegals, List.filter_cons, List.filter_cons, hitem, htold]
    by_cases h : outer.Within span
    · rw [if_pos (decide_eq_true h), if_pos (decide_eq_true h), illegals, ih]
    · simp only [h, decide_false, Bool.false_eq_true, if_false, ih]

section NotBlank

variable {source : String} (h : ¬ Blank source.toList)
include h

theorem core_eq_of_not_blank : core source.toList = ⟨byteLength (leadingBlanks (trimEnd source.toList)),
    byteLength (leadingBlanks (trimEnd source.toList)) + byteLength (trim source.toList)⟩ := by
  rw [← byteLength_append, leadingBlanks_append_trim, leadingBlanks_trimEnd h]
  rfl

/-- The scan falls into what ends before the core, what stands in it, and what starts behind it. -/
theorem filter_core_scan : innerItems source
    = some ((scan source).filter fun item => (core source.toList).Within item.span) := by
  have hcore := core_eq_of_not_blank h
  rw [innerItems_eq_items h, scan_eq_append, List.filter_append, List.filter_append]
  have hfront : (⟨0, leadingBlanks (trimEnd source.toList)⟩ : Scanner).items.filter
      (fun item => (core source.toList).Within item.span) = [] := by
    refine List.filter_eq_nil_iff.2 fun item hitem hin => ?_
    exact Scanner.not_within_of_stop_le hitem (by rw [hcore, Nat.zero_add]) (of_decide_eq_true hin)
  have hback : (⟨byteLength (trimEnd source.toList), trailingBlanks source.toList⟩ : Scanner).items.filter
      (fun item => (core source.toList).Within item.span) = [] := by
    refine List.filter_eq_nil_iff.2 fun item hitem hin => ?_
    exact Scanner.not_within_of_le_start hitem (Nat.le_refl _) (of_decide_eq_true hin)
  rw [hfront, hback, List.nil_append, List.append_nil, List.filter_eq_self.2]
  intro item hitem
  have hin := Scanner.within_of_mem_items hitem
  rw [← hcore] at hin
  exact decide_eq_true hin

end NotBlank

/-- **A check sees the items of the whole text that lie between the blanks at its ends**, with the spans that they have
there.  The scanner of a check stands behind the blanks in front, in the text without those at the end.  Every other item
of the text is an illegal blank.  So the illegal characters that a check tells are those of the whole text between the
blanks. -/
theorem innerItems_eq_filter (c : Checker) {source : String} (h : ¬ Blank source.toList) :
    innerItems source = some (Scanner.startingAt (trimEnd source.toList) (core source.toList).start).items ∧
    (Scanner.startingAt (trimEnd source.toList) (core source.toList).start).items
      = (scan source).filter (fun item => (core source.toList).Within item.span) ∧
    (∀ item ∈ scan source, ¬ (core source.toList).Within item.span →
      ∃ c span, item = .illegal c span ∧ isBlank c = true) ∧
    (c.report source).diagnostics.filter (fun d => !d.isGrammatical)
      = (Item.illegals (scan source)).filter fun d => (core source.toList).Within d.span := by
  have hfilter := filter_core_scan h
  have hstart : innerItems source
      = some (Scanner.startingAt (trimEnd source.toList) (core source.toList).start).items := by
    rw [core, ← leadingBlanks_trimEnd h]
    exact innerItems_eq_startingAt h
  refine ⟨hstart, Option.some.inj (hstart.symm.trans hfilter), fun item hitem hout => ?_, ?_⟩
  · obtain ⟨front, back, hscan, hmargins⟩ := scan_eq_margins hfilter
    rw [hscan, List.append_assoc, List.mem_append, List.mem_append] at hitem
    rcases hitem with hitem | hitem | hitem
    · exact hmargins item (List.mem_append_left back hitem)
    · have hin := (List.mem_filter.1 hitem).2
      exact absurd (of_decide_eq_true hin) hout
    · exact hmargins item (List.mem_append_right front hitem)
  · rw [c.diagnostics_report hfilter, diagnose, Matcher.filter_lexical_reports, Item.illegals_filter]

/-- Two no-break spaces at the ends, which a scan would tell, and one between. -/
theorem innerItems_eq_filter_no_break :
    ¬ Blank "\u00a0 5\u00a0x\u00a0".toList ∧ (Item.illegals (scan "\u00a0 5\u00a0x\u00a0")).length = 3 ∧
    (({} : Checker).report "\u00a0 5\u00a0x\u00a0").diagnostics.filter (fun d => !d.isGrammatical)
      = [.illegalCharacter '\u00a0' ⟨4, 6⟩] := by
  have hb : ¬ Blank "\u00a0 5\u00a0x\u00a0".toList := by decide
  refine ⟨hb, by decide +kernel, ?_⟩
  rw [(innerItems_eq_filter {} hb).2.2.2]
  decide +kernel

end Plantilla
