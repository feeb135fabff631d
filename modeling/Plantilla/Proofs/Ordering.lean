import Plantilla.Proofs.Acceptance
import Plantilla.Proofs.Margins
import Plantilla.Proofs.Munch
import Plantilla.Proofs.Searching
/-!
# Ordering — diagnostics stand where they belong

The items of a scan stand one behind the other (`inOrder_scan`), and a run tells of them in their order.  The end, if it
is told, stands where the last of them ends.  So the diagnostics of a run stand in order too (`pairwise_diagnose`).
Those of a check point into the whole text, at boundaries, and so do their lines and columns
(`diagnostics_in_order`).
-/
namespace Plantilla

open Text

/-! ## Items in order -/

/-- The items are not empty and stand one behind the other. -/
structure InOrder (items : List Item) : Prop where
  nonempty : ∀ item ∈ items, item.span.start < item.span.stop
  ordered : items.Pairwise fun item later => item.span.stop ≤ later.span.start

namespace InOrder

variable {items : List Item}

theorem sublist {items' : List Item} (h : InOrder items) (hsub : items'.Sublist items) : InOrder items' :=
  ⟨fun item hitem => h.nonempty item (hsub.subset hitem), h.ordered.sublist hsub⟩

theorem pairwise_start (h : InOrder items) : (items.map Item.span).Pairwise fun s s' => s.start < s'.start := by
  rw [List.pairwise_map]
  exact h.ordered.imp_of_mem fun hitem _ hle => Nat.lt_of_lt_of_le (h.nonempty _ hitem) hle

theorem start_lt_stop_last (h : InOrder items) {item : Item} (hitem : item ∈ items) :
    item.span.start < (items.getLast?.map fun item => item.span.stop).getD 0 := by
  rcases List.eq_nil_or_concat items with rfl | ⟨front, last, rfl⟩
  · cases hitem
  · have hlast := h.nonempty last (by simp)
    rw [List.concat_eq_append] at hitem h ⊢
    rw [List.getLast?_concat]
    show item.span.start < last.span.stop
    rcases List.mem_append.1 hitem with hfront | hitem
    · have hbefore := (List.pairwise_append.1 h.ordered).2.2 item hfront last (by simp)
      have := h.nonempty item (List.mem_append_left _ hfront)
      omega
    · obtain rfl := List.mem_singleton.1 hitem
      exact hlast

end InOrder

theorem Item.span_piece (item : Item) : item.piece.2 = item.span := by cases item <;> rfl

theorem munch_scan (source : String) : Munch 0 source.toList ((scan source).map Item.piece) :=
  (munch_iff source.toList 0 _).2 rfl

theorem inOrder_scan (source : String) : InOrder (scan source) := by
  constructor
  · intro item hitem
    have hspan := (munch_scan source).nonempty _ (List.mem_map_of_mem hitem)
    rwa [Item.span_piece] at hspan
  · have hspans := List.pairwise_map.1 (munch_scan source).ordered
    simpa only [Item.span_piece] using hspans

/-! ## Diagnostics in order -/

theorem Diagnostic.span_of_item? {d : Diagnostic} {item : Item} (h : d.item? = some item) : d.span = item.span := by
  cases d <;> cases h <;> rfl

theorem Diagnostic.map_span_of_map_item? : ∀ (ds : List Diagnostic) (items : List Item),
    ds.map item? = items.map some → ds.map span = items.map Item.span
  | [], [], _ => rfl
  | d :: ds, item :: items, h => by
    obtain ⟨hd, hds⟩ := List.cons.inj h
    rw [List.map_cons, List.map_cons, span_of_item? hd, map_span_of_map_item? ds items hds]

theorem mem_diagnose {g : Grammar} {r : Recovery} {items : List Item} {d : Diagnostic} (h : d ∈ diagnose g r items) :
    (∃ item ∈ items, d.item? = some item) ∨
      ∃ expected, d = .unexpectedEnd ((items.getLast?.map fun item => item.span.stop).getD 0) expected := by
  have hitem : d ∈ (Matcher.start g).told g r items → ∃ item ∈ items, d.item? = some item := by
    intro hd
    obtain ⟨told', hsub, htold⟩ := Matcher.map_item?_told g r items (Matcher.start g)
    have hmem := List.mem_map_of_mem (f := Diagnostic.item?) hd
    rw [htold] at hmem
    obtain ⟨item, hitem, hd⟩ := List.mem_map.1 hmem
    exact ⟨item, hsub.subset hitem, hd.symm⟩
  rcases diagnose_eq_told_or g r items with htold | ⟨expected, htold⟩
  · rw [htold] at h
    exact .inl (hitem h)
  · rw [htold, List.mem_append, List.mem_singleton] at h
    exact h.imp hitem fun hd => ⟨expected, hd⟩

/-- **Diagnostics stand in the order in which they are told.** -/
theorem pairwise_diagnose {items : List Item} (h : InOrder items) (g : Grammar) (r : Recovery) :
    (diagnose g r items).Pairwise fun d d' => d.span.start < d'.span.start := by
  obtain ⟨told', hsub, htold⟩ := Matcher.map_item?_told g r items (Matcher.start g)
  have hspans := Diagnostic.map_span_of_map_item? _ _ htold
  have hordered := (h.sublist hsub).pairwise_start
  rw [← hspans, List.pairwise_map] at hordered
  rcases diagnose_eq_told_or g r items with hdiagnose | ⟨expected, hdiagnose⟩
  · rw [hdiagnose]
    exact hordered
  · rw [hdiagnose, List.pairwise_append]
    refine ⟨hordered, List.pairwise_singleton _ _, fun d hd d' hd' => ?_⟩
    have hmem := List.mem_map_of_mem (f := Diagnostic.span) hd
    rw [hspans] at hmem
    obtain ⟨item, hitem, hspan⟩ := List.mem_map.1 hmem
    rw [List.mem_singleton.1 hd', ← hspan]
    exact h.start_lt_stop_last (hsub.subset hitem)

/-! ## Places in the text -/

theorem isBoundary_of_mem_scan {source : String} {item : Item} (h : item ∈ scan source) :
    IsBoundary item.span.start source.toList ∧ IsBoundary item.span.stop source.toList := by
  obtain ⟨pre, w, rest, htext, hspan, _⟩ := (munch_scan source).placed _ (List.mem_map_of_mem h)
  rw [Item.span_piece] at hspan
  rw [hspan]
  constructor
  · exact ⟨pre, w ++ rest, by rw [htext, List.append_assoc], Nat.zero_add _⟩
  · exact ⟨pre ++ w, rest, htext, by rw [byteLength_append, Nat.zero_add]⟩

/-- The span of the item cuts it out of the text: the illegal character, or the lexeme that makes the token, which is
the longest match where it stands. -/
def Item.IsCutFrom (cs : List Char) : Item → Prop
  | .illegal c span => slice? span.start span.stop cs = some [c]
  | .token t => ∃ s w rest, suffixAt t.span.start cs = some (w ++ rest) ∧
      slice? t.span.start t.span.stop cs = some w ∧ s.Matches w ∧ Longest w (w ++ rest) ∧
      t = (⟨s, w, rest⟩ : Found).token t.span.start

theorem isCutFrom_of_mem_scan {source : String} {item : Item} (h : item ∈ scan source) :
    item.IsCutFrom source.toList := by
  cases item with
  | illegal c span =>
    obtain ⟨pre, w, rest, htext, hspan, hw, _⟩ := (munch_scan source).placed _ (List.mem_map_of_mem h)
    rw [Item.span_piece, Nat.zero_add] at hspan
    cases hspan
    subst hw
    show slice? (byteLength pre) (byteLength pre + byteLength [c]) source.toList = some [c]
    rw [htext]
    exact slice?_append pre [c] rest
  | token t =>
    obtain ⟨pre, f, htext, hf, rfl⟩ := Scanner.exists_found_of_mem_items source.toList 0 t h
    obtain ⟨_, hmatch, hlong⟩ := lexeme?_spec hf
    have hspan := Found.span_token f (byteLength pre)
    rw [Nat.zero_add]
    refine ⟨f.shape, f.chars, f.rest, ?_, ?_, hmatch, hlong, ?_⟩
    · rw [hspan, htext, List.append_assoc]
      exact suffixAt_append pre _
    · rw [hspan, htext]
      exact slice?_append pre f.chars f.rest
    · rw [hspan]

theorem Checker.diagnostics_eq (c : Checker) (source : String) :
    (c.report source).diagnostics = [] ∨ ∃ items, innerItems source = some items ∧
      (c.report source).diagnostics = diagnose c.grammar c.recovery items := by
  by_cases hb : Blank source.toList
  · rw [c.report_of_blank hb]
    exact .inl rfl
  · have hitems := innerItems_of_not_blank hb
    exact .inr ⟨_, hitems, c.diagnostics_report hitems⟩

theorem sublist_scan {source : String} {items : List Item} (h : innerItems source = some items) :
    items.Sublist (scan source) := by
  obtain ⟨front, back, hscan, _⟩ := scan_eq_margins h
  rw [hscan]
  exact (List.sublist_append_right front items).trans (List.sublist_append_left _ back)

theorem isBoundary_of_mem_diagnose {source : String} {items : List Item} (hsub : items.Sublist (scan source))
    {g : Grammar} {r : Recovery} {d : Diagnostic} (hd : d ∈ diagnose g r items) :
    IsBoundary d.span.start source.toList := by
  rcases mem_diagnose hd with ⟨item, hitem, hd⟩ | ⟨expected, rfl⟩
  · rw [Diagnostic.span_of_item? hd]
    exact (isBoundary_of_mem_scan (hsub.subset hitem)).1
  · show IsBoundary ((items.getLast?.map fun item => item.span.stop).getD 0) source.toList
    cases hlast : items.getLast? with
    | none => exact ⟨[], source.toList, rfl, rfl⟩
    | some item => exact (isBoundary_of_mem_scan (hsub.subset (List.mem_of_getLast? hlast))).2

/-- **The diagnostics of a check stand in the order of the text.**  Each starts behind the one before it, the one of the
end included, at a boundary of the whole text, and cuts what it is about out of the text.  So the lines and columns
that are shown of them rise too, and each is counted: none is that of an offset inside a character. -/
theorem diagnostics_in_order (c : Checker) (source : String) :
    ((c.report source).diagnostics.Pairwise fun d d' => d.span.start < d'.span.start) ∧
    (∀ d ∈ (c.report source).diagnostics, IsBoundary d.span.start source.toList ∧
      ∀ item ∈ d.item?, item.IsCutFrom source.toList) ∧
    (((c.report source).entries source).Pairwise fun e e' => e.position.order e'.position = .lt) ∧
    (((c.report source).entries source).map Report.Entry.position
      = (c.report source).diagnostics.map fun d => Position.ofOffset source d.span.start) ∧
    ∀ d ∈ (c.report source).diagnostics,
      Position.Counted source.toList d.span.start (Position.ofOffset source d.span.start) := by
  rcases c.diagnostics_eq source with hnil | ⟨items, hitems, hdiagnose⟩
  · rw [Report.entries_eq, hnil]
    simp
  · have hsub := sublist_scan hitems
    have hstarts := pairwise_diagnose ((inOrder_scan source).sublist hsub) c.grammar c.recovery
    have hboundary := fun d => isBoundary_of_mem_diagnose (d := d) hsub (g := c.grammar) (r := c.recovery)
    rw [Report.entries_eq, hdiagnose]
    refine ⟨hstarts, fun d hd => ⟨hboundary d hd, fun item hitem => ?_⟩, ?_, List.map_map, fun d hd => ?_⟩
    · rcases mem_diagnose hd with ⟨item', hitem', hd⟩ | ⟨expected, rfl⟩
      · obtain rfl : item' = item := Option.some.inj (hd.symm.trans hitem)
        exact isCutFrom_of_mem_scan (hsub.subset hitem')
      · cases hitem
    · rw [List.pairwise_map]
      exact hstarts.imp_of_mem fun hd hd' hlt => Position.order_within (hboundary _ hd) (hboundary _ hd') hlt
    · exact Position.counted_within (hboundary d hd)

/-- A number, a letter of two bytes behind it, and a mark in the next line. -/
theorem diagnostics_in_order_two_lines :
    .illegalCharacter 'ñ' ⟨2, 4⟩ ∈ (({} : Checker).report "5 ñ\nvar #").diagnostics ∧
    IsBoundary 2 "5 ñ\nvar #".toList ∧ slice? 2 4 "5 ñ\nvar #".toList = some ['ñ'] ∧
    ((({} : Checker).report "5 ñ\nvar #").entries "5 ñ\nvar #").map Report.Entry.position = [⟨1, 1⟩, ⟨1, 3⟩, ⟨2, 5⟩] := by
  have hmem : .illegalCharacter 'ñ' ⟨2, 4⟩ ∈ (({} : Checker).report "5 ñ\nvar #").diagnostics := by decide +kernel
  obtain ⟨hboundary, hcut⟩ := (diagnostics_in_order {} "5 ñ\nvar #").2.1 _ hmem
  exact ⟨hmem, hboundary, hcut _ rfl, by rw [Report.entries_eq]; decide +kernel⟩

end Plantilla
