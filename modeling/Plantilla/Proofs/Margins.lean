import Plantilla.Proofs.Trimming
/-!
# Margins — what the blanks around a text give

A lexeme begins and ends with a printable character, so no blank starts one, and blanks behind a text lengthen none.
Scanned with its margins, a text therefore gives the items it has without them, and besides those only illegal
characters, one for each blank in the margins that is no gap (`scan_eq_margins`).
-/
namespace Plantilla

open Text

/-- A visible ASCII character. -/
def IsPrintable (c : Char) : Prop := 33 ≤ c.toNat ∧ c.toNat ≤ 126

instance (c : Char) : Decidable (IsPrintable c) := inferInstanceAs (Decidable (_ ∧ _))

theorem IsPrintable.not_isBlank {c : Char} (h : IsPrintable c) : isBlank c = false := by
  obtain ⟨hlo, hhi⟩ := h
  simp only [isBlank, blankRanges, inRanges, Bool.and_eq_false_iff, Bool.or_eq_false_iff, decide_eq_false_iff_not,
    and_true]
  omega

theorem isPrintable_of_isDigit {c : Char} (h : Numeral.isDigit c = true) : IsPrintable c := by
  simp only [Numeral.isDigit, Bool.and_eq_true, decide_eq_true_eq, Char.le_def, UInt32.le_iff_toNat_le] at h
  have hlo : 48 ≤ c.val.toNat := h.1
  have hhi : c.val.toNat ≤ 57 := h.2
  exact ⟨Nat.le_trans (by decide) hlo, Nat.le_trans hhi (by decide)⟩

theorem isPrintable_of_isWordStart {c : Char} (h : isWordStart c = true) : IsPrintable c := by
  simp only [isWordStart, Bool.or_eq_true, Bool.and_eq_true, decide_eq_true_eq, beq_iff_eq, Char.le_def,
    UInt32.le_iff_toNat_le] at h
  rcases h with (h | h) | rfl
  · have hlo : 97 ≤ c.val.toNat := h.1
    have hhi : c.val.toNat ≤ 122 := h.2
    exact ⟨Nat.le_trans (by decide) hlo, Nat.le_trans hhi (by decide)⟩
  · have hlo : 65 ≤ c.val.toNat := h.1
    have hhi : c.val.toNat ≤ 90 := h.2
    exact ⟨Nat.le_trans (by decide) hlo, Nat.le_trans hhi (by decide)⟩
  · decide

theorem isPrintable_of_isWordPart {c : Char} (h : isWordPart c = true) : IsPrintable c := by
  rw [isWordPart, Bool.or_eq_true] at h
  exact h.elim isPrintable_of_isWordStart isPrintable_of_isDigit

theorem isPrintable_of_mem_marks {c : Char} {k : Kind} (h : (c, k) ∈ marks) : IsPrintable c := by
  have hmarks : ∀ m ∈ marks, IsPrintable m.1 := by decide
  exact hmarks _ h

theorem Shape.Opens.isPrintable {s : Shape} {c : Char} (h : s.Opens c) : IsPrintable c := by
  cases s with
  | mark kind => exact isPrintable_of_mem_marks h
  | number => exact isPrintable_of_isDigit h
  | word => exact isPrintable_of_isWordStart h
  | quoted => cases h; decide

/-- Outside quotes a lexeme is visible throughout. -/
theorem Shape.Matches.isPrintable {s : Shape} {w : List Char} (h : s.Matches w) (hs : s ≠ .quoted) :
    ∀ c ∈ w, IsPrintable c := by
  cases s with
  | mark kind =>
    obtain ⟨c, hc, rfl⟩ := h
    simpa using isPrintable_of_mem_marks hc
  | number => exact fun c hc => isPrintable_of_isDigit (h.2 c hc)
  | word =>
    obtain ⟨c, cs, rfl, hc, hcs⟩ := h
    intro d hd
    rcases List.mem_cons.1 hd with rfl | hd
    · exact isPrintable_of_isWordStart hc
    · exact isPrintable_of_isWordPart (hcs d hd)
  | quoted => exact absurd rfl hs

theorem Shape.Matches.last_isPrintable {s : Shape} {body : List Char} {c : Char} (h : s.Matches (body ++ [c])) :
    IsPrintable c := by
  by_cases hs : s = .quoted
  · subst hs
    obtain ⟨inside, hw, _⟩ := h
    obtain ⟨_, hc⟩ := List.append_inj' (hw.trans (List.cons_append).symm) rfl
    cases hc
    decide
  · exact h.isPrintable hs c (by simp)

/-! ## Blanks before and behind -/

theorem lexeme?_of_isBlank {c : Char} (h : isBlank c = true) (cs : List Char) : lexeme? (c :: cs) = none := by
  have hhead : headShape? c = none := by
    rw [Option.eq_none_iff_forall_ne_some]
    intro s hs
    have hprint := (headShape?_eq_some_iff.1 hs).isPrintable.not_isBlank
    rw [h] at hprint
    cases hprint
  rw [lexeme?_cons, hhead, Option.bind_none]

/-- A match in front of some blanks does not reach into them. -/
theorem fits_blank {bs : List Char} (hb : Blank bs) (cs : List Char) : Fits cs bs := by
  rintro s v hv ⟨t, ht⟩
  rcases List.append_eq_append_iff.1 ht with ⟨es, rfl, _⟩ | ⟨es, rfl, rfl⟩
  · exact List.prefix_append v es
  · rcases List.eq_nil_or_concat es with rfl | ⟨front, c, rfl⟩
    · simp
    · rw [List.concat_eq_append, ← List.append_assoc] at hv
      have hprint := hv.last_isPrintable.not_isBlank
      rw [hb c (by simp)] at hprint
      cases hprint

namespace Scanner

/-- **Blanks behind a text add items, and change none.** -/
theorem items_append_blank {bs : List Char} (hb : Blank bs) (cs : List Char) (o : Nat) :
    (⟨o, cs ++ bs⟩ : Scanner).items = (⟨o, cs⟩ : Scanner).items ++ (⟨o + byteLength cs, bs⟩ : Scanner).items := by
  have hany : Carried fun _ => True := ⟨fun _ _ => trivial, fun _ _ => trivial, fun _ _ _ => trivial⟩
  exact items_append hany (fun cs _ => fits_blank hb cs) cs o trivial

theorem items_blank_append (cs : List Char) : ∀ (bs : List Char) (o : Nat), Blank bs →
    (⟨o, bs ++ cs⟩ : Scanner).items = (⟨o, bs⟩ : Scanner).items ++ (⟨o + byteLength bs, cs⟩ : Scanner).items
  | [], o, _ => by rw [items_nil]; rfl
  | b :: bs, o, hb => by
    have hbs : Blank bs := fun c hc => hb c (List.mem_cons_of_mem b hc)
    rw [List.cons_append, byteLength]
    cases hgap : isGap b with
    | true =>
      rw [items_of_isGap hgap, items_of_isGap hgap, items_blank_append cs bs _ hbs, utf8Size_of_isGap hgap, Nat.add_assoc]
    | false =>
      have hnone := lexeme?_of_isBlank (hb b List.mem_cons_self)
      rw [items_of_unmatched hgap (hnone _), items_of_unmatched hgap (hnone _), items_blank_append cs bs _ hbs,
        Nat.add_assoc]
      rfl

theorem illegal_of_mem_items : ∀ (bs : List Char) (o : Nat), Blank bs → ∀ item ∈ (⟨o, bs⟩ : Scanner).items,
    ∃ c span, item = .illegal c span ∧ isBlank c = true
  | [], o, _, item, h => by rw [items_nil] at h; cases h
  | b :: bs, o, hb, item, h => by
    have hbs : Blank bs := fun c hc => hb c (List.mem_cons_of_mem b hc)
    cases hgap : isGap b with
    | true =>
      rw [items_of_isGap hgap] at h
      exact illegal_of_mem_items bs _ hbs item h
    | false =>
      rw [items_of_unmatched hgap (lexeme?_of_isBlank (hb b List.mem_cons_self) bs)] at h
      rcases List.mem_cons.1 h with rfl | h
      · exact ⟨b, _, rfl, hb b List.mem_cons_self⟩
      · exact illegal_of_mem_items bs _ hbs item h

end Scanner

/-! ## A text and its margins -/

theorem scan_eq_append (source : String) :
    scan source = (⟨0, leadingBlanks (trimEnd source.toList)⟩ : Scanner).items
      ++ (⟨byteLength (leadingBlanks (trimEnd source.toList)), trim source.toList⟩ : Scanner).items
      ++ (⟨byteLength (trimEnd source.toList), trailingBlanks source.toList⟩ : Scanner).items := by
  have hlead := blank_leadingBlanks (trimEnd source.toList)
  have htrail := blank_trailingBlanks source.toList
  have hback := Scanner.items_append_blank htrail (trimEnd source.toList) 0
  have hfront := Scanner.items_blank_append (trim source.toList) _ 0 hlead
  rw [leadingBlanks_append_trim, Nat.zero_add] at hfront
  rw [trimEnd_append_trailingBlanks, Nat.zero_add, hfront] at hback
  exact hback

/-- **Between its margins a text gives the items of a check**, and in them only illegal blanks. -/
theorem scan_eq_margins {source : String} {items : List Item} (h : innerItems source = some items) :
    ∃ front back, scan source = front ++ items ++ back ∧
      ∀ item ∈ front ++ back, ∃ c span, item = .illegal c span ∧ isBlank c = true := by
  obtain rfl := Option.some.inj (h.symm.trans (innerItems_eq_items (not_blank_of_innerItems h)))
  refine ⟨_, _, scan_eq_append source, fun item hitem => ?_⟩
  rcases List.mem_append.1 hitem with hitem | hitem
  · exact Scanner.illegal_of_mem_items _ _ (blank_leadingBlanks _) item hitem
  · exact Scanner.illegal_of_mem_items _ _ (blank_trailingBlanks _) item hitem

/-! ## Texts without illegal characters -/

theorem Scanner.isBlank_of_isGap {c : Char} (h : isGap c = true) : isBlank c = true := by
  rcases isGap_iff.1 h with rfl | rfl | rfl <;> decide

theorem blank_of_items_eq_nil {cs : List Char} : ∀ {o : Nat}, (⟨o, cs⟩ : Scanner).items = [] → Blank cs := by
  induction cs using Scanner.scan_induction with
  | nil =>
    intro o _ c hc
    cases hc
  | gap c cs hc ih =>
    intro o h
    rw [Scanner.items_of_isGap hc] at h
    rintro d (_ | ⟨_, hd⟩)
    · exact Scanner.isBlank_of_isGap hc
    · exact ih h d hd
  | lexeme c cs f hc hf _ =>
    intro o h
    rw [Scanner.items_of_lexeme hc hf] at h
    cases h
  | illegal c cs hc hf _ =>
    intro o h
    rw [Scanner.items_of_unmatched hc hf] at h
    cases h

theorem innerItems_of_tokens {source : String} (h : ∀ item ∈ scan source, ∃ t, item = .token t) :
    innerItems source = if scan source = [] then none else some (scan source) := by
  have hnil : ∀ items : List Item, items.Sublist (scan source) →
      (∀ item ∈ items, ∃ c span, item = .illegal c span ∧ isBlank c = true) → items = [] := by
    intro items hsub hillegal
    rw [List.eq_nil_iff_forall_not_mem]
    intro item hitem
    obtain ⟨t, rfl⟩ := h item (hsub.subset hitem)
    obtain ⟨c, span, hc, _⟩ := hillegal _ hitem
    cases hc
  by_cases hb : Blank source.toList
  · rw [innerItems_of_blank hb, if_pos (hnil _ (List.Sublist.refl _) (Scanner.illegal_of_mem_items _ 0 hb))]
  · have hne : scan source ≠ [] := fun hscan => hb (blank_of_items_eq_nil hscan)
    have hitems := innerItems_of_not_blank hb
    obtain ⟨front, back, hscan, hmargins⟩ := scan_eq_margins hitems
    have hfront : front = [] := by
      refine hnil front ?_ fun item hitem => hmargins item (List.mem_append_left back hitem)
      rw [hscan, List.append_assoc]
      exact List.sublist_append_left _ _
    have hback : back = [] := by
      refine hnil back ?_ fun item hitem => hmargins item (List.mem_append_right front hitem)
      rw [hscan]
      exact List.sublist_append_right _ _
    rw [hfront, hback, List.nil_append, List.append_nil] at hscan
    rw [if_neg hne, hitems, hscan]

end Plantilla
