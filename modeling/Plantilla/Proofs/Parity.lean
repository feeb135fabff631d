import Mathlib.Algebra.Ring.Parity
import Plantilla.Proofs.Ordering
/-!
# Parity — illegal characters, without a scan

Whether a quote opens a string depends on the quotes before it and on whether one is still to come, so it is a matter
of the whole text: the quotes are paired from left to right, and only the last of an odd number is left alone
(`Unpaired`).  A character is illegal exactly if it is not between the quotes of a pair and is outside the alphabet or
such a quote (`Stray`).  The scan goes from lexeme to lexeme and knows nothing of this.  What carries the induction is
that a lexeme holds no quote or two, so behind it the quotes are paired as if the text started there (`stray_append`);
behind a quote that is never closed there are no quotes at all (`stray_of_not_mem`).
-/
namespace Plantilla

open Text Scanner

/-! ## Characters and places -/

/-- The characters that may stand outside quotes, and the quote. -/
def InAlphabet (c : Char) : Prop :=
  c ∈ [' ', '\t', '\n', '_', '+', '(', ')', '\x7b', '\x7d', ';', '=', ',', '<', '"'] ∨
    ('a' ≤ c ∧ c ≤ 'z') ∨ ('A' ≤ c ∧ c ≤ 'Z') ∨ ('0' ≤ c ∧ c ≤ '9')

/-- Strictly between the two quotes of a pair: a quote stands before it with an even number of quotes in front, which
are paired among themselves, and the next quote stands behind it. -/
def Enclosed (pre : List Char) (c : Char) (post : List Char) : Prop :=
  ∃ front left right back, pre = front ++ '"' :: left ∧ post = right ++ '"' :: back ∧ '"' ∉ left ++ c :: right ∧
    Even (front.count '"')

/-- The quote that no other is left for: the last one of an odd number. -/
def Unpaired (pre : List Char) (c : Char) (post : List Char) : Prop :=
  c = '"' ∧ '"' ∉ post ∧ Odd ((pre ++ c :: post).count '"')

/-- A character that belongs nowhere, between the characters before it and those behind it. -/
def Stray (pre : List Char) (c : Char) (post : List Char) : Prop :=
  ¬ Enclosed pre c post ∧ (¬ InAlphabet c ∨ Unpaired pre c post)

theorem exists_last_of_odd {c : Char} {cs : List Char} (hodd : Odd (cs.count c)) :
    ∃ front back, cs = front ++ c :: back ∧ c ∉ back := by
  have hmem : c ∈ cs.reverse := by
    rw [List.mem_reverse, ← List.count_pos_iff]
    exact Nat.pos_of_ne_zero fun hzero => by simp [hzero] at hodd
  obtain ⟨back, front, hsplit, hback⟩ := List.eq_append_cons_of_mem hmem
  refine ⟨front.reverse, back.reverse, ?_, fun h => hback (List.mem_reverse.1 h)⟩
  rw [← List.reverse_reverse cs, hsplit]
  simp

theorem enclosed_iff {pre : List Char} {c : Char} {post : List Char} :
    Enclosed pre c post ↔ c ≠ '"' ∧ Odd (pre.count '"') ∧ '"' ∈ post := by
  constructor
  · rintro ⟨front, left, right, back, rfl, rfl, hfree, heven⟩
    simp only [List.mem_append, List.mem_cons, not_or] at hfree
    refine ⟨fun hc => hfree.2.1 hc.symm, ?_, by simp⟩
    rw [List.count_append, List.count_cons_self, List.count_eq_zero_of_not_mem hfree.1]
    exact heven.add_one
  · rintro ⟨hc, hodd, hpost⟩
    obtain ⟨front, left, rfl, hleft⟩ := exists_last_of_odd hodd
    obtain ⟨right, back, rfl, hright⟩ := List.eq_append_cons_of_mem hpost
    refine ⟨front, left, right, back, rfl, rfl, by simp [hleft, hright, Ne.symm hc], ?_⟩
    rw [List.count_append, List.count_cons_self, List.count_eq_zero_of_not_mem hleft, Nat.zero_add, Nat.odd_add_one,
      Nat.not_odd_iff_even] at hodd
    exact hodd

theorem unpaired_iff {pre : List Char} {c : Char} {post : List Char} :
    Unpaired pre c post ↔ c = '"' ∧ '"' ∉ post ∧ Even (pre.count '"') := by
  refine and_congr_right fun hc => and_congr_right fun hpost => ?_
  subst hc
  rw [List.count_append, List.count_cons_self, List.count_eq_zero_of_not_mem hpost, Nat.zero_add, Nat.odd_add_one,
    Nat.not_odd_iff_even]

/-- Behind characters with an even number of quotes the pairs are those of the text that starts there. -/
theorem stray_append {w : List Char} (h : Even (w.count '"')) {pre : List Char} {c : Char} {post : List Char} :
    Stray (w ++ pre) c post ↔ Stray pre c post := by
  have heven : Even ((w ++ pre).count '"') ↔ Even (pre.count '"') := by
    rw [List.count_append, Nat.even_add, iff_true_left h]
  have hodd : Odd ((w ++ pre).count '"') ↔ Odd (pre.count '"') := by
    rw [← Nat.not_even_iff_odd, heven, Nat.not_even_iff_odd]
  simp only [Stray, enclosed_iff, unpaired_iff, heven, hodd]

/-- Where no quote is to come, the quotes in front do not matter. -/
theorem stray_of_not_mem {pre : List Char} {c : Char} {post : List Char} (h : '"' ∉ c :: post) :
    Stray pre c post ↔ ¬ InAlphabet c := by
  obtain ⟨hc, hpost⟩ := not_or.1 (List.mem_cons.not.1 h)
  simp [Stray, enclosed_iff, unpaired_iff, hpost, Ne.symm hc]

theorem stray_nil {c : Char} {post : List Char} : Stray [] c post ↔ ¬ InAlphabet c ∨ c = '"' ∧ '"' ∉ post := by
  simp [Stray, enclosed_iff, unpaired_iff]

theorem even_count_singleton {c : Char} (hc : c ≠ '"') : Even ([c].count '"') := by
  rw [List.count_eq_zero_of_not_mem (by simp [hc.symm])]
  exact Even.zero

/-- Behind a stray character that starts a text the pairs are those of the text behind it. -/
theorem Stray.cons_iff {c : Char} {cs : List Char} (h : Stray [] c cs) (pre : List Char) (d : Char) (post : List Char)
    (hcs : cs = pre ++ d :: post) : Stray (c :: pre) d post ↔ Stray pre d post := by
  rcases stray_nil.1 h with hno | ⟨rfl, hfree⟩
  · have hc : c ≠ '"' := by
      rintro rfl
      exact hno (.inl (by decide))
    exact stray_append (even_count_singleton hc)
  · have hfree' : '"' ∉ d :: post := fun h => hfree (hcs ▸ List.mem_append_right pre h)
    rw [stray_of_not_mem hfree', stray_of_not_mem hfree']

/-! ## What the scan sees at the head -/

theorem inAlphabet_iff {c : Char} : InAlphabet c ↔ isGap c = true ∨ ∃ s : Shape, s.Opens c := by
  constructor
  · rintro (hc | hc | hc | hc)
    · simp only [List.mem_cons, List.not_mem_nil, or_false] at hc
      rcases hc with rfl | rfl | rfl | rfl | rfl | rfl | rfl | rfl | rfl | rfl | rfl | rfl | rfl | rfl
      · exact .inl rfl
      · exact .inl rfl
      · exact .inl rfl
      · exact .inr ⟨.word, rfl⟩
      all_goals exact .inr ⟨_, headShape?_eq_some_iff.1 rfl⟩
    · exact .inr ⟨.word, by simp [Shape.Opens, isWordStart, hc]⟩
    · exact .inr ⟨.word, by simp [Shape.Opens, isWordStart, hc]⟩
    · exact .inr ⟨.number, by simp [Shape.Opens, Numeral.isDigit, hc]⟩
  · rintro (hc | ⟨s, hs⟩)
    · rcases isGap_iff.1 hc with rfl | rfl | rfl <;> exact .inl (by decide)
    · cases s with
      | mark kind =>
        have hmarks : ∀ m ∈ marks, InAlphabet m.1 := by simp [marks, InAlphabet]
        exact hmarks _ hs
      | number => exact .inr (.inr (.inr (by simpa [Shape.Opens, Numeral.isDigit] using hs)))
      | word =>
        simp only [Shape.Opens, isWordStart, Bool.or_eq_true, Bool.and_eq_true, decide_eq_true_eq, beq_iff_eq] at hs
        rcases hs with (hc | hc) | rfl
        · exact .inr (.inl hc)
        · exact .inr (.inr (.inl hc))
        · exact .inl (by decide)
      | quoted =>
        obtain rfl : c = '"' := hs
        exact .inl (by decide)

/-- No lexeme starts at a character outside the alphabet, nor at a quote that is not closed, and those are all. -/
theorem lexeme?_cons_eq_none_iff {c : Char} {cs : List Char} (hc : isGap c = false) :
    lexeme? (c :: cs) = none ↔ Stray [] c cs := by
  rw [stray_nil, inAlphabet_iff, lexeme?_cons]
  simp only [hc, Bool.false_eq_true, false_or, not_exists]
  cases hs : headShape? c with
  | none =>
    have hno : ∀ s : Shape, ¬ s.Opens c := fun s ho => by
      rw [headShape?_eq_some_iff.2 ho] at hs
      cases hs
    simp [hno]
  | some s =>
    have ho := headShape?_eq_some_iff.1 hs
    have hopen : ¬ ∀ s : Shape, ¬ s.Opens c := fun hno => hno s ho
    simp only [hopen, false_or, Option.bind_some]
    cases s with
    | quoted =>
      obtain rfl : c = '"' := ho
      simp only [Shape.read, true_and]
      constructor
      · intro hread hmem
        obtain ⟨left, right, rfl, hleft⟩ := List.eq_append_cons_of_mem hmem
        rw [(takeWhile_of_closed hleft).2] at hread
        cases hread
      · intro hfree
        have hdrop : cs.dropWhile isUnquoted = [] :=
          List.dropWhile_eq_nil_iff.2 fun d hd => isUnquoted_iff.2 fun hq => hfree (hq ▸ hd)
        rw [hdrop]
    | mark kind =>
      have hmarks : ∀ m ∈ marks, m.1 ≠ '"' := by decide
      simp [Shape.read, hmarks _ ho]
    | number =>
      have hne : c ≠ '"' := by rintro rfl; cases ho
      simp [Shape.read, hne]
    | word =>
      have hne : c ≠ '"' := by rintro rfl; cases ho
      simp [Shape.read, hne]

/-! ## What the scan passes over -/

namespace Shape.Matches

variable {s : Shape} {w : List Char}

theorem plain (h : s.Matches w) (hs : s ≠ .quoted) : ∀ c ∈ w, InAlphabet c ∧ c ≠ '"' := by
  have hdigit : ∀ c, Numeral.isDigit c = true → InAlphabet c ∧ c ≠ '"' := fun c hc =>
    ⟨inAlphabet_iff.2 (.inr ⟨.number, hc⟩), by rintro rfl; exact absurd hc (by decide)⟩
  have hstart : ∀ c, isWordStart c = true → InAlphabet c ∧ c ≠ '"' := fun c hc =>
    ⟨inAlphabet_iff.2 (.inr ⟨.word, hc⟩), by rintro rfl; exact absurd hc (by decide)⟩
  cases s with
  | mark kind =>
    obtain ⟨c, hc, rfl⟩ := h
    have hmarks : ∀ m ∈ marks, m.1 ≠ '"' := by decide
    simpa using ⟨inAlphabet_iff.2 (.inr ⟨.mark kind, hc⟩), hmarks _ hc⟩
  | number => exact fun c hc => hdigit c (h.2 c hc)
  | word =>
    obtain ⟨c, cs, rfl, hc, hcs⟩ := h
    intro d hd
    rcases List.mem_cons.1 hd with rfl | hd
    · exact hstart _ hc
    · rcases Bool.or_eq_true_iff.1 (hcs d hd) with hd | hd
      · exact hstart d hd
      · exact hdigit d hd
  | quoted => exact absurd rfl hs

theorem even_count_quote (h : s.Matches w) : Even (w.count '"') := by
  by_cases hs : s = .quoted
  · subst hs
    obtain ⟨body, rfl, hbody⟩ := h
    rw [List.count_cons_self, List.count_append, List.count_eq_zero_of_not_mem hbody, List.count_singleton_self]
    exact even_two
  · rw [List.count_eq_zero_of_not_mem fun hq => (h.plain hs _ hq).2 rfl]
    exact Even.zero

/-- Of a string no character is stray: its quotes are a pair, and the others stand between them. -/
theorem not_stray_quoted {body pre mid : List Char} {c : Char} (hfree : '"' ∉ body)
    (hw : '"' :: (body ++ ['"']) = pre ++ c :: mid) (rest : List Char) : ¬ Stray pre c (mid ++ rest) := by
  rintro ⟨hout, hstray⟩
  rw [enclosed_iff] at hout
  rw [unpaired_iff] at hstray
  cases pre with
  | nil =>
    -- the opening quote: the closing one is still to come
    obtain ⟨rfl, rfl⟩ := List.cons.inj hw
    rcases hstray with hc | ⟨_, hno, _⟩
    · exact hc (.inl (by decide))
    · simp at hno
  | cons q pre =>
    rw [List.cons_append, List.cons.injEq] at hw
    obtain ⟨rfl, hsplit⟩ := hw
    rcases List.eq_nil_or_concat mid with rfl | ⟨mid, close, rfl⟩
    · -- the closing quote: one quote stands before it
      obtain ⟨rfl, hc⟩ := List.append_inj' hsplit rfl
      obtain rfl : '"' = c := List.singleton_inj.1 hc
      rcases hstray with hc | ⟨_, _, heven⟩
      · exact hc (.inl (by decide))
      · rw [List.count_cons_self, List.count_eq_zero_of_not_mem hfree] at heven
        exact absurd heven (by decide)
    · -- between the two
      rw [List.concat_eq_append, ← List.cons_append, ← List.append_assoc] at hsplit
      obtain ⟨rfl, hclose⟩ := List.append_inj' hsplit rfl
      obtain rfl : '"' = close := List.singleton_inj.1 hclose
      simp only [List.mem_append, List.mem_cons, not_or] at hfree
      refine hout ⟨Ne.symm hfree.2.1, ?_, by simp⟩
      rw [List.count_cons_self, List.count_eq_zero_of_not_mem hfree.1]
      exact odd_one

theorem not_stray (h : s.Matches w) {pre mid : List Char} {c : Char} (hw : w = pre ++ c :: mid) (rest : List Char) :
    ¬ Stray pre c (mid ++ rest) := by
  by_cases hs : s = .quoted
  · subst hs
    obtain ⟨body, rfl, hfree⟩ := h
    exact not_stray_quoted hfree hw rest
  · have hc := h.plain hs c (by simp [hw])
    rintro ⟨_, hout | ⟨hquote, _⟩⟩
    · exact hout hc.1
    · exact hc.2 hquote

end Shape.Matches

/-! ## Whole texts -/

/-- A stray character of a text and its bytes, the first byte of the text being number `o`. -/
def StrayAt (o : Nat) (text : List Char) (c : Char) (span : Span) : Prop :=
  ∃ pre post, text = pre ++ c :: post ∧ span = ⟨o + byteLength pre, o + byteLength pre + c.utf8Size⟩ ∧ Stray pre c post

/-- Characters of which none is stray may be taken off the head, if behind them all stays as it was. -/
theorem strayAt_append {w rest : List Char} (hin : ∀ pre c mid, w = pre ++ c :: mid → ¬ Stray pre c (mid ++ rest))
    (hout : ∀ pre c post, rest = pre ++ c :: post → (Stray (w ++ pre) c post ↔ Stray pre c post)) (o : Nat) (c : Char)
    (span : Span) : StrayAt o (w ++ rest) c span ↔ StrayAt (o + byteLength w) rest c span := by
  constructor
  · rintro ⟨pre, post, htext, rfl, hstray⟩
    have hcut : (∃ pre', pre = w ++ pre' ∧ rest = pre' ++ c :: post) ∨
        ∃ mid, w = pre ++ c :: mid ∧ post = mid ++ rest := by
      rcases List.append_eq_append_iff.1 htext with hbehind | ⟨_ | ⟨d, mid⟩, hw, hpost⟩
      · exact .inl hbehind
      · exact .inl ⟨[], by simpa using hw.symm, hpost.symm⟩
      · rw [List.cons_append, List.cons.injEq] at hpost
        obtain ⟨rfl, hpost⟩ := hpost
        exact .inr ⟨mid, hw, hpost⟩
    rcases hcut with ⟨pre, rfl, hrest⟩ | ⟨mid, hw, rfl⟩
    · exact ⟨pre, post, hrest, by simp only [byteLength_append, Nat.add_assoc], (hout _ _ _ hrest).1 hstray⟩
    · exact absurd hstray (hin _ _ _ hw)
  · rintro ⟨pre, post, rfl, rfl, hstray⟩
    exact ⟨w ++ pre, post, by rw [List.append_assoc], by simp only [byteLength_append, Nat.add_assoc],
      (hout _ _ _ rfl).2 hstray⟩

theorem strayAt_cons {c : Char} {cs : List Char}
    (hout : ∀ pre d post, cs = pre ++ d :: post → (Stray (c :: pre) d post ↔ Stray pre d post)) (o : Nat) (d : Char)
    (span : Span) : StrayAt o (c :: cs) d span ↔
      Stray [] c cs ∧ d = c ∧ span = ⟨o, o + c.utf8Size⟩ ∨ StrayAt (o + c.utf8Size) cs d span := by
  constructor
  · rintro ⟨pre, post, htext, rfl, hstray⟩
    cases pre with
    | nil =>
      obtain ⟨rfl, rfl⟩ := List.cons.inj htext
      exact .inl ⟨hstray, rfl, rfl⟩
    | cons e pre =>
      obtain ⟨rfl, rfl⟩ := List.cons.inj htext
      exact .inr ⟨pre, post, rfl, by simp only [byteLength, Nat.add_assoc], (hout _ _ _ rfl).1 hstray⟩
  · rintro (⟨hstray, rfl, rfl⟩ | ⟨pre, post, rfl, rfl, hstray⟩)
    · exact ⟨[], cs, rfl, rfl, hstray⟩
    · exact ⟨c :: pre, post, rfl, by simp only [byteLength, Nat.add_assoc], (hout _ _ _ rfl).2 hstray⟩

/-- **The illegal characters of a scan are the stray ones.** -/
theorem illegal_mem_items_iff (text : List Char) : ∀ (o : Nat) (c : Char) (span : Span),
    .illegal c span ∈ (⟨o, text⟩ : Scanner).items ↔ StrayAt o text c span := by
  induction text using scan_induction with
  | nil =>
    intro o c span
    rw [items_nil]
    constructor
    · intro h
      cases h
    · rintro ⟨pre, post, htext, _⟩
      simp at htext
  | gap c cs hc ih =>
    intro o d span
    have hquote : c ≠ '"' := by rintro rfl; cases hc
    have hin : ¬ Stray [] c cs := by
      rw [stray_nil, inAlphabet_iff]
      simp [hc, hquote]
    rw [items_of_isGap hc, ih, strayAt_cons (fun pre d post _ => stray_append (even_count_singleton hquote)),
      utf8Size_of_isGap hc]
    simp [hin]
  | lexeme c cs f hc hf ih =>
    intro o d span
    obtain ⟨hsplit, hmatch, _⟩ := lexeme?_spec hf
    rw [items_of_lexeme hc hf, List.mem_cons, ih, hsplit,
      strayAt_append (fun pre c mid hw => hmatch.not_stray hw _) (fun _ _ _ _ => stray_append hmatch.even_count_quote)]
    simp
  | illegal c cs hc hf ih =>
    intro o d span
    have hstray := (lexeme?_cons_eq_none_iff hc).1 hf
    rw [items_of_unmatched hc hf, List.mem_cons, ih, strayAt_cons hstray.cons_iff]
    simp [hstray]

theorem not_lt_of_last_quote {pre post pre' post' : List Char} (h : pre ++ '"' :: post = pre' ++ '"' :: post')
    (hpost : '"' ∉ post) : ¬ byteLength pre < byteLength pre' := by
  intro hlt
  obtain ⟨_ | ⟨d, es⟩, rfl, hes⟩ := exists_append_of_byteLength_le h (Nat.le_of_lt hlt)
  · rw [List.append_nil] at hlt
    exact Nat.lt_irrefl _ hlt
  · rw [List.cons_append, List.cons.injEq] at hes
    exact hpost (hes.2 ▸ List.mem_append_right es List.mem_cons_self)

section Scan

variable {source : String}

theorem illegal_mem_scan_iff {c : Char} {span : Span} : .illegal c span ∈ scan source ↔
    ∃ pre post, source.toList = pre ++ c :: post ∧ span = ⟨byteLength pre, byteLength pre + c.utf8Size⟩ ∧
      Stray pre c post := by
  rw [scan, ofChars, illegal_mem_items_iff]
  simp only [StrayAt, Nat.zero_add]

theorem last_of_illegal_quote {span : Span} (h : .illegal '"' span ∈ scan source) :
    ∃ pre post, source.toList = pre ++ '"' :: post ∧ span = ⟨byteLength pre, byteLength pre + 1⟩ ∧ '"' ∉ post := by
  obtain ⟨pre, post, htext, hspan, _, hno | ⟨_, hfree, _⟩⟩ := illegal_mem_scan_iff.1 h
  · exact absurd (.inl (by decide)) hno
  · exact ⟨pre, post, htext, hspan, hfree⟩

/-- Of two illegal quotes neither could stand first. -/
theorem length_illegal_quotes_le_one (source : String) :
    ((scan source).filter fun item => item.piece.1 = .inr '"').length ≤ 1 := by
  have hstarts := (inOrder_scan source).pairwise_start
  rw [List.pairwise_map] at hstarts
  have hordered := hstarts.sublist (List.filter_sublist (p := fun item => item.piece.1 = .inr '"'))
  have hillegal : ∀ item ∈ (scan source).filter fun item => item.piece.1 = .inr '"',
      ∃ span, item = .illegal '"' span ∧ item ∈ scan source := by
    intro item hitem
    obtain ⟨hmem, hpiece⟩ := List.mem_filter.1 hitem
    cases item with
    | token t => simp [Item.piece] at hpiece
    | illegal c span =>
      obtain rfl : c = '"' := by simpa [Item.piece] using hpiece
      exact ⟨span, rfl, hmem⟩
  cases hquotes : (scan source).filter fun item => item.piece.1 = .inr '"' with
  | nil => exact Nat.zero_le 1
  | cons item items =>
    cases items with
    | nil => exact Nat.le_refl 1
    | cons later items =>
      rw [hquotes] at hordered hillegal
      obtain ⟨span, rfl, hitem⟩ := hillegal item List.mem_cons_self
      obtain ⟨span', rfl, hlater⟩ := hillegal later (List.mem_cons_of_mem _ List.mem_cons_self)
      obtain ⟨pre, post, htext, rfl, hfree⟩ := last_of_illegal_quote hitem
      obtain ⟨pre', post', htext', rfl, _⟩ := last_of_illegal_quote hlater
      have hlt : byteLength pre < byteLength pre' := List.rel_of_pairwise_cons hordered List.mem_cons_self
      exact absurd hlt (not_lt_of_last_quote (htext.symm.trans htext') hfree)

end Scan

/-- **The alphabet and the parity of the quotes fix the illegal characters.**  A scan has an illegal character exactly
where a stray one stands, with its bytes.  Its items start one behind the other, so each is given once, in the order of
the text.  At most one quote is illegal, and no quote stands behind it. -/
theorem illegal_iff_stray (source : String) :
    (∀ c span, .illegal c span ∈ scan source ↔ ∃ pre post, source.toList = pre ++ c :: post ∧
      span = ⟨byteLength pre, byteLength pre + c.utf8Size⟩ ∧ Stray pre c post) ∧
    ((scan source).Pairwise fun item later => item.span.start < later.span.start) ∧
    ((scan source).filter fun item => item.piece.1 = .inr '"').length ≤ 1 ∧
    ∀ span, .illegal '"' span ∈ scan source → ∃ pre post, source.toList = pre ++ '"' :: post ∧
      span = ⟨byteLength pre, byteLength pre + 1⟩ ∧ '"' ∉ post := by
  have hordered := (inOrder_scan source).pairwise_start
  rw [List.pairwise_map] at hordered
  exact ⟨fun _ _ => illegal_mem_scan_iff, hordered, length_illegal_quotes_le_one source,
    fun _ => last_of_illegal_quote⟩

end Plantilla
