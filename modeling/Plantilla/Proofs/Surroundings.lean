import Plantilla.Proofs.Likeness
import Plantilla.Proofs.Ordering
/-!
# Surroundings — blanks around a text shift its check

Put between blanks, a text keeps its core, which now starts as many bytes further on as there are blanks in front
(`innerItems_surround`).  A matcher sees the same kinds, so it tells the same, about items that are shifted; and the end
of a text that is not blank is the end of an item, so it is shifted with them (`diagnose_shift`).
-/
namespace Plantilla

open Text

def Diagnostic.shift (k : Nat) : Diagnostic → Diagnostic
  | illegalCharacter c span => illegalCharacter c (span.shift k)
  | unexpectedToken t expected => unexpectedToken (t.shift k) expected
  | unexpectedEnd offset expected => unexpectedEnd (offset + k) expected

/-- A report with everything it points at `k` bytes further on. -/
def Report.shift (k : Nat) (r : Report) : Report := { r with diagnostics := r.diagnostics.map (Diagnostic.shift k) }

/-! ## Shifted items -/

theorem Item.shift_add (k k' : Nat) (item : Item) : item.shift (k + k') = (item.shift k').shift k := by
  have hspan : ∀ s : Span, s.shift (k + k') = (s.shift k').shift k := by
    intro s
    simp only [Span.shift, Nat.add_assoc, Nat.add_comm k' k]
  cases item with
  | token t => simp only [Item.shift, Token.shift, hspan]
  | illegal c span => simp only [Item.shift, hspan]

theorem Item.kind?_shift (k : Nat) (item : Item) : (item.shift k).kind? = item.kind? := by cases item <;> rfl

theorem Item.stop_shift (k : Nat) (item : Item) : (item.shift k).span.stop = item.span.stop + k := by cases item <;> rfl

theorem recognize_shift (g : Grammar) (r : Recovery) (k : Nat) (items : List Item) :
    recognize g r (items.map (Item.shift k)) = recognize g r items := by
  apply recognize_like
  rw [List.map_map]
  exact List.map_congr_left fun item _ => (Item.kind?_shift k item).symm

theorem offset_of_mem_diagnose {g : Grammar} {r : Recovery} {items : List Item} {offset : Nat} {expected : List Kind}
    (h : .unexpectedEnd offset expected ∈ diagnose g r items) :
    offset = (items.getLast?.map fun item => item.span.stop).getD 0 := by
  rcases mem_diagnose h with ⟨item, _, hitem⟩ | ⟨expected', hd⟩
  · cases hitem
  · cases hd
    rfl

/-- **Shifted items give shifted diagnostics.**  There has to be an item: without one the end is told at byte 0. -/
theorem diagnose_shift (g : Grammar) (r : Recovery) (k : Nat) {items : List Item} (hne : items ≠ []) :
    diagnose g r (items.map (Item.shift k)) = (diagnose g r items).map (Diagnostic.shift k) := by
  have hitems : List.Forall₂ (fun item item' => item' = item.shift k) items (items.map (Item.shift k)) := by
    rw [List.forall₂_map_right_iff, List.forall₂_same]
    exact fun item _ => rfl
  have hlike := diagnose_like (fun item item' h => by rw [h, Item.kind?_shift]) g r hitems
  obtain ⟨hlen, hpairs⟩ := List.forall₂_iff_zip.1 hlike
  rw [eq_comm, ← List.forall₂_eq_eq_eq, List.forall₂_map_left_iff, List.forall₂_iff_zip]
  refine ⟨hlen, fun {d d'} hmem => ?_⟩
  obtain ⟨hd, hd'⟩ := List.of_mem_zip hmem
  cases hpairs hmem with
  | illegalCharacter hshift => cases hshift; rfl
  | unexpectedToken hshift => cases hshift; rfl
  | unexpectedEnd =>
    -- no item is told here, but the end stands where the last one stops
    have hoffset := offset_of_mem_diagnose hd
    have hoffset' := offset_of_mem_diagnose hd'
    rw [List.getLast?_eq_some_getLast hne] at hoffset
    rw [List.getLast?_map, List.getLast?_eq_some_getLast hne] at hoffset'
    rw [Diagnostic.shift, hoffset, hoffset']
    simp only [Option.map_some, Option.getD_some, Item.stop_shift]

/-! ## Checks -/

theorem items_ne_nil {source : String} {items : List Item} (h : innerItems source = some items) : items ≠ [] := by
  have hb := not_blank_of_innerItems h
  rw [innerItems_eq_items hb, Option.some.injEq] at h
  rintro rfl
  exact not_blank_trim hb (blank_of_items_eq_nil h)

section Surround

variable {front back : String} (hfront : Blank front.toList) (hback : Blank back.toList)
include hfront hback

theorem blank_surround_iff (source : String) : Blank (front ++ source ++ back).toList ↔ Blank source.toList := by
  rw [String.toList_append, String.toList_append, blank_append_iff, blank_append_iff]
  exact ⟨fun h => h.1.2, fun h => ⟨⟨hfront, h⟩, hback⟩⟩

theorem innerItems_surround (source : String) : innerItems (front ++ source ++ back)
    = (innerItems source).map (List.map (Item.shift (byteLength front.toList))) := by
  by_cases hb : Blank source.toList
  · rw [innerItems_of_blank hb, innerItems_of_blank ((blank_surround_iff hfront hback source).2 hb)]
    rfl
  · have hbody : trimEnd (front ++ source ++ back).toList = front.toList ++ trimEnd source.toList := by
      rw [String.toList_append, String.toList_append, trimEnd_append_of_blank hback, trimEnd_append_of_not_blank hb]
    have hlead : leadingBlanks (trimEnd (front ++ source ++ back).toList)
        = front.toList ++ leadingBlanks (trimEnd source.toList) := by
      rw [hbody, leadingBlanks_append_of_blank hfront]
    have htrim : trim (front ++ source ++ back).toList = trim source.toList := by
      rw [trim, hbody, List.dropWhile_append_of_pos hfront, trim]
    have hscan : trimmedScan (front ++ source ++ back) = trimmedScan source := by
      rw [trimmedScan, htrim, trimmedScan]
    rw [innerItems_of_not_blank hb, innerItems_of_not_blank fun h => hb ((blank_surround_iff hfront hback source).1 h),
      hscan, hlead, byteLength_append, Option.map_some, List.map_map]
    exact congrArg some (List.map_congr_left fun item _ => Item.shift_add _ _ item)

/-- **Blanks around a text only shift its check.**  The verdict and the template stay, and the diagnostics are the same
in the same order, with every span and the offset of an end as many bytes further on as the blanks in front take. -/
theorem report_surround (c : Checker) (source : String) :
    c.report (front ++ source ++ back) = (c.report source).shift front.utf8ByteSize := by
  have hinner := innerItems_surround hfront hback source
  rw [byteLength_toList] at hinner
  cases hitems : innerItems source with
  | none =>
    rw [hitems, Option.map_none] at hinner
    rw [c.report_of_none hinner, c.report_of_none hitems]
    rfl
  | some items =>
    have hne := items_ne_nil hitems
    rw [hitems, Option.map_some] at hinner
    rw [c.report_eq_conclude hinner, c.report_eq_conclude hitems, recognize_shift, diagnose_shift _ _ _ hne]
    rfl

end Surround

/-- Three bytes of white space in front of a text that has blanks of its own, an open string and no end. -/
theorem report_surround_ideographic :
    Blank "\u3000".toList ∧ Blank "\u2003\n".toList ∧
    ({} : Checker).report ("\u3000" ++ " var int \"x " ++ "\u2003\n")
      = ⟨.rejected, none, [.illegalCharacter '"' ⟨12, 13⟩, .unexpectedEnd 14 [.semi]]⟩ := by
  have hfront : Blank "\u3000".toList := by decide
  have hback : Blank "\u2003\n".toList := by decide
  refine ⟨hfront, hback, ?_⟩
  rw [report_surround hfront hback {} " var int \"x "]
  decide +kernel

end Plantilla
