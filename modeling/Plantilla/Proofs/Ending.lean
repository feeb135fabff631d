import Plantilla.Proofs.Surroundings
/-!
# Ending — where the end of a text is told

The end of the items is told where the last of them stops, and behind its last item a scan leaves only gap
(`exists_gap_behind`).  A text without blanks behind it does not end in a gap, so there the last item stops at the very
end, be it a token or an illegal character (`stop_innerItems`).  Hence a check tells the end where the text without the
blanks behind it ends, and it tells it last and once (`unexpectedEnd_at_trimEnd`).
-/
namespace Plantilla

open Text

/-! ## Behind the last item -/

namespace Scanner

/-- **Behind its last item a scan leaves only gap**, and all of a text without items is gap. -/
theorem exists_gap_behind (cs : List Char) : ∀ o : Nat, ∃ front gap, cs = front ++ gap ∧
    (∀ c ∈ gap, isGap c = true) ∧
    (((⟨o, cs⟩ : Scanner).items.getLast?.map fun item => item.span.stop).getD o = o + byteLength front) := by
  induction cs using scan_induction with
  | nil => exact fun o => ⟨[], [], rfl, by simp, by rw [items_nil]; rfl⟩
  | gap c cs hc ih =>
    intro o
    obtain ⟨front, gap, hsplit, hgap, hstop⟩ := ih (o + 1)
    rw [items_of_isGap hc]
    cases hlast : (⟨o + 1, cs⟩ : Scanner).items.getLast? with
    | none =>
      -- no item follows, so the character belongs to the gap behind
      rw [hlast] at hstop
      have hfront : byteLength front = 0 := Nat.add_left_cancel hstop.symm
      rw [byteLength_eq_zero_iff] at hfront
      refine ⟨[], c :: cs, rfl, ?_, rfl⟩
      rw [hsplit, hfront]
      simpa [hc] using hgap
    | some item =>
      rw [hlast] at hstop
      refine ⟨c :: front, gap, by rw [hsplit]; rfl, hgap, ?_⟩
      rw [byteLength, utf8Size_of_isGap hc, ← Nat.add_assoc]
      exact hstop
  | lexeme c cs f hc hf ih =>
    intro o
    obtain ⟨front, gap, hsplit, hgap, hstop⟩ := ih (o + byteLength f.chars)
    refine ⟨f.chars ++ front, gap, ?_, hgap, ?_⟩
    · rw [(lexeme?_spec hf).1, hsplit, List.append_assoc]
    · have hspan : (Item.token (f.token o)).span.stop = o + byteLength f.chars := by
        rw [Item.span, Found.span_token]
      rw [items_of_lexeme hc hf, Item.last_stop_cons, hspan, hstop, byteLength_append, Nat.add_assoc]
  | illegal c cs hc hf ih =>
    intro o
    obtain ⟨front, gap, hsplit, hgap, hstop⟩ := ih (o + c.utf8Size)
    refine ⟨c :: front, gap, by rw [hsplit]; rfl, hgap, ?_⟩
    rw [items_of_unmatched hc hf, Item.last_stop_cons, Item.span, hstop, byteLength, Nat.add_assoc]

end Scanner

/-! ## The end of the text -/

theorem Text.trimEnd_trimEnd (cs : List Char) : trimEnd (trimEnd cs) = trimEnd cs := by
  have h := trimEnd_append_of_blank (blank_trailingBlanks cs) (trimEnd cs)
  rw [trimEnd_append_trailingBlanks] at h
  exact h.symm

/-- A trimmed text has no blanks behind. -/
theorem Text.eq_nil_of_trimEnd_append {cs back : List Char} (hback : Blank back)
    (h : trimEnd (cs ++ back) = cs ++ back) : back = [] := by
  rw [trimEnd_append_of_blank hback] at h
  have hsplit := trimEnd_append_trailingBlanks cs
  rw [h, List.append_assoc, List.append_right_eq_self] at hsplit
  exact (List.append_eq_nil_iff.1 hsplit).1

/-- **The last item of a check stops where the text without the blanks behind it ends.** -/
theorem stop_innerItems {source : String} {items : List Item} (h : innerItems source = some items) :
    (items.getLast?.map fun item => item.span.stop).getD 0 = byteLength (trimEnd source.toList) := by
  have hb := not_blank_of_innerItems h
  have hne := items_ne_nil h
  obtain rfl := Option.some.inj (h.symm.trans (innerItems_eq_items hb))
  have hbody := leadingBlanks_append_trim source.toList
  obtain ⟨front, gap, hsplit, hgap, hstop⟩ := Scanner.exists_gap_behind (trim source.toList)
    (byteLength (leadingBlanks (trimEnd source.toList)))
  have hblank : Blank gap := fun c hc => Scanner.isBlank_of_isGap (hgap c hc)
  have htrimmed : trimEnd (leadingBlanks (trimEnd source.toList) ++ front ++ gap)
      = leadingBlanks (trimEnd source.toList) ++ front ++ gap := by
    rw [List.append_assoc, ← hsplit, hbody, trimEnd_trimEnd]
  have hnil := eq_nil_of_trimEnd_append hblank htrimmed
  rw [hnil, List.append_nil] at hsplit
  rw [List.getLast?_eq_some_getLast hne] at hstop ⊢
  rw [← hsplit, ← byteLength_append, hbody] at hstop
  exact hstop

/-- **The end is told at the end of the text without the blanks behind it**, after everything else, and once. -/
theorem unexpectedEnd_at_trimEnd (c : Checker) (source : String) {offset : Nat} {expected : List Kind}
    (h : .unexpectedEnd offset expected ∈ (c.report source).diagnostics) :
    offset = byteLength (trimEnd source.toList) ∧
    ∃ front, (c.report source).diagnostics = front ++ [.unexpectedEnd offset expected] ∧
      ∀ offset' expected', .unexpectedEnd offset' expected' ∉ front := by
  rcases c.diagnostics_eq source with hnil | ⟨items, hitems, hdiagnose⟩
  · rw [hnil] at h
    cases h
  · have hnone := Matcher.unexpectedEnd_not_mem_told c.grammar c.recovery (Matcher.start c.grammar) items
    rw [hdiagnose] at h ⊢
    rcases diagnose_eq_told_or c.grammar c.recovery items with htold | ⟨expected', htold⟩
    · rw [htold] at h
      exact absurd h (hnone offset expected)
    · rw [htold, List.mem_append, List.mem_singleton, stop_innerItems hitems] at h
      rw [htold, stop_innerItems hitems]
      rcases h with h | h
      · exact absurd h (hnone offset expected)
      · cases h
        exact ⟨rfl, _, rfl, hnone⟩

/-- An unfinished declaration behind an error, with an illegal letter of two bytes at its end and blanks of three bytes
on both sides. -/
theorem unexpectedEnd_at_trimEnd_letter :
    .unexpectedEnd 20 [.semi] ∈ (({} : Checker).report "\u30005 var int edad ñ\u2003\n").diagnostics ∧
    20 = byteLength (trimEnd "\u30005 var int edad ñ\u2003\n".toList) ∧
    byteLength "\u30005 var int edad ñ\u2003\n".toList = 24 := by
  have hmem : .unexpectedEnd 20 [.semi] ∈ (({} : Checker).report "\u30005 var int edad ñ\u2003\n").diagnostics := by
    decide +kernel
  exact ⟨hmem, (unexpectedEnd_at_trimEnd {} _ hmem).1, by decide +kernel⟩

end Plantilla
