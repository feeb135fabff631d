import Plantilla.Proofs.Window
/-!
# Resuming — a scan from the middle of a text

A scanner that starts at a boundary of a text scans what stands behind it, and counts bytes from the start of the text.
Between two items that is the rest of the whole scan, because a scan remembers nothing of the items it gave: this holds
behind a token, and also behind a quote that is never closed, where the scan goes on with the next character.  Such a
place is said here by what stands on its two sides (`ItemBoundary`), and the two ends of every item are such places
(`itemBoundary_of_mem_items`).
-/
namespace Plantilla

open Text

namespace Scanner

/-- No item goes across byte `k` of a text whose first byte is number `o`: some items start before it, and the others are
those of the characters behind it. -/
def ItemBoundary (o : Nat) (cs : List Char) (k : Nat) : Prop :=
  ∃ pre rest before, cs = pre ++ rest ∧ k = o + byteLength pre ∧
    (⟨o, cs⟩ : Scanner).items = before ++ (⟨k, rest⟩ : Scanner).items ∧ ∀ item ∈ before, item.span.start < k

theorem itemBoundary_start (o : Nat) (cs : List Char) : ItemBoundary o cs o :=
  ⟨[], cs, [], rfl, rfl, rfl, fun _ h => by cases h⟩

namespace ItemBoundary

variable {o k : Nat}

theorem of_gap {c : Char} {cs : List Char} (hc : isGap c = true) (h : ItemBoundary (o + 1) cs k) :
    ItemBoundary o (c :: cs) k := by
  obtain ⟨pre, rest, before, rfl, rfl, hitems, hbefore⟩ := h
  refine ⟨c :: pre, rest, before, rfl, ?_, by rw [items_of_isGap hc]; exact hitems, hbefore⟩
  rw [byteLength, utf8Size_of_isGap hc, Nat.add_assoc]

theorem of_cons {w rest : List Char} {item : Item} (hw : w ≠ []) (hstart : item.span.start = o)
    (hitems : (⟨o, w ++ rest⟩ : Scanner).items = item :: (⟨o + byteLength w, rest⟩ : Scanner).items)
    (h : ItemBoundary (o + byteLength w) rest k) : ItemBoundary o (w ++ rest) k := by
  obtain ⟨pre, post, before, rfl, rfl, hrest, hbefore⟩ := h
  refine ⟨w ++ pre, post, item :: before, (List.append_assoc _ _ _).symm, ?_, by rw [hitems, hrest]; rfl, ?_⟩
  · rw [byteLength_append, Nat.add_assoc]
  · rintro e (_ | ⟨_, he⟩)
    · have := byteLength_pos hw
      omega
    · exact hbefore e he

end ItemBoundary

theorem itemBoundary_of_mem_cons {o : Nat} {w rest : List Char} {head : Item} (hw : w ≠ [])
    (hspan : head.span = ⟨o, o + byteLength w⟩)
    (hitems : (⟨o, w ++ rest⟩ : Scanner).items = head :: (⟨o + byteLength w, rest⟩ : Scanner).items)
    (hrest : ∀ item ∈ (⟨o + byteLength w, rest⟩ : Scanner).items,
      ItemBoundary (o + byteLength w) rest item.span.start ∧ ItemBoundary (o + byteLength w) rest item.span.stop) :
    ∀ item ∈ (⟨o, w ++ rest⟩ : Scanner).items,
      ItemBoundary o (w ++ rest) item.span.start ∧ ItemBoundary o (w ++ rest) item.span.stop := by
  have hbehind : ∀ k, ItemBoundary (o + byteLength w) rest k → ItemBoundary o (w ++ rest) k := fun k =>
    ItemBoundary.of_cons hw (by rw [hspan]) hitems
  intro item h
  rw [hitems] at h
  rcases List.mem_cons.1 h with rfl | h
  · rw [hspan]
    exact ⟨itemBoundary_start _ _, hbehind _ (itemBoundary_start _ _)⟩
  · exact ⟨hbehind _ (hrest item h).1, hbehind _ (hrest item h).2⟩

/-- **An item starts and stops at a boundary.** -/
theorem itemBoundary_of_mem_items (cs : List Char) : ∀ o : Nat, ∀ item ∈ (⟨o, cs⟩ : Scanner).items,
    ItemBoundary o cs item.span.start ∧ ItemBoundary o cs item.span.stop := by
  induction cs using scan_induction with
  | nil =>
    intro o item h
    rw [items_nil] at h
    cases h
  | gap c cs hc ih =>
    intro o item h
    rw [items_of_isGap hc] at h
    exact ⟨(ih _ item h).1.of_gap hc, (ih _ item h).2.of_gap hc⟩
  | lexeme c cs f hc hf ih =>
    intro o
    obtain ⟨hsplit, hmatch, _⟩ := lexeme?_spec hf
    obtain ⟨d, ds, hchars, _⟩ := hmatch.exists_cons
    have hne : f.chars ≠ [] := by rw [hchars]; exact List.cons_ne_nil d ds
    have hspan : (Item.token (f.token o)).span = ⟨o, o + byteLength f.chars⟩ := Found.span_token f o
    have hitems := items_of_lexeme (o := o) hc hf
    rw [hsplit] at hitems ⊢
    exact itemBoundary_of_mem_cons hne hspan hitems (ih _)
  | illegal c cs hc hf ih =>
    intro o
    exact itemBoundary_of_mem_cons (w := [c]) (List.cons_ne_nil c []) rfl (items_of_unmatched hc hf) (ih _)

theorem startingAt_of_not_isBoundary {cs : List Char} {k : Nat} (h : ¬ IsBoundary k cs) : startingAt cs k = ofChars cs := by
  rw [isBoundary_iff, Option.not_isSome_iff_eq_none] at h
  rw [startingAt, h]

/-- From a boundary between items a scan gives the items that start there or behind it. -/
theorem ItemBoundary.items_startingAt {source : String} {k : Nat} (h : ItemBoundary 0 source.toList k) :
    (startingAt source.toList k).items = (scan source).filter fun item => k ≤ item.span.start := by
  obtain ⟨pre, rest, before, htext, hk, hitems, hbefore⟩ := h
  rw [Nat.zero_add] at hk
  have hfront : before.filter (fun item => k ≤ item.span.start) = [] :=
    List.filter_eq_nil_iff.2 fun item hitem => by simpa using hbefore item hitem
  have hback : (⟨k, rest⟩ : Scanner).items.filter (fun item => k ≤ item.span.start) = (⟨k, rest⟩ : Scanner).items :=
    List.filter_eq_self.2 fun item hitem => by simpa using (span_of_mem_items hitem).1
  rw [scan, ofChars, hitems, List.filter_append, hfront, hback, List.nil_append, htext, hk, startingAt_append]

/-- **A scan can be taken up anywhere.**  From a boundary of the text it gives the items of the text behind, as many bytes
further on; from no boundary it starts over.  From the start or the end of an item it gives what the whole scan gives
from there on. -/
theorem startingAt_resumes (source : String) (k : Nat) :
    (∀ pre post : String, source = pre ++ post → k = pre.utf8ByteSize →
      (startingAt source.toList k).items = (scan post).map (Item.shift k)) ∧
    (¬ IsBoundary k source.toList → (startingAt source.toList k).items = scan source) ∧
    ∀ item ∈ scan source, k = item.span.start ∨ k = item.span.stop →
      (startingAt source.toList k).items = (scan source).filter fun item => k ≤ item.span.start := by
  refine ⟨?_, fun h => by rw [startingAt_of_not_isBoundary h, scan], fun item hitem hk => ?_⟩
  · rintro pre post rfl rfl
    rw [String.toList_append, ← byteLength_toList, startingAt_append, scan, ofChars, ← items_add, Nat.zero_add]
  · obtain ⟨hstart, hstop⟩ := itemBoundary_of_mem_items source.toList 0 item hitem
    rcases hk with rfl | rfl
    · exact hstart.items_startingAt
    · exact hstop.items_startingAt

/-- Behind a quote that is never closed, and inside the letter of two bytes that follows it. -/
theorem startingAt_resumes_behind_quote :
    (scan "a \"ñ").map Item.piece = [(.inl .ident, ⟨0, 1⟩), (.inr '"', ⟨2, 3⟩), (.inr 'ñ', ⟨3, 5⟩)] ∧
    (startingAt "a \"ñ".toList 3).items = [.illegal 'ñ' ⟨3, 5⟩] ∧
    (startingAt "a \"ñ".toList 3).items = (scan "ñ").map (Item.shift 3) ∧
    (startingAt "a \"ñ".toList 4).items = scan "a \"ñ" := by
  have hquote : .illegal '"' ⟨2, 3⟩ ∈ scan "a \"ñ" := by decide +kernel
  have hinside : ¬ IsBoundary 4 "a \"ñ".toList := by decide
  refine ⟨by decide +kernel, ?_, (startingAt_resumes "a \"ñ" 3).1 "a \"" "ñ" (by decide) (by decide),
    (startingAt_resumes "a \"ñ" 4).2.1 hinside⟩
  rw [(startingAt_resumes "a \"ñ" 3).2.2 _ hquote (.inr rfl)]
  decide +kernel

end Scanner
end Plantilla
