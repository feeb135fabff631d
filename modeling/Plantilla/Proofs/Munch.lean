import Plantilla.Proofs.Items
/-!
# Munch — the one way to cut a text

A cut of a text into pieces is said here with no scanner (`Munch`): the pieces stand one behind the other, each token
is written for its kind and is a longest match, each illegal character is one at which no pattern matches, and what lies
outside the pieces is gap.  There is exactly one such cut, the items of the scan (`munch_iff`): whatever stands first
behind the gap has to start there, and the longest match leaves no choice of where it ends.
-/
namespace Plantilla

open Text Scanner

/-- The kind of a token, or an illegal character, with its bytes. -/
abbrev Piece := (Kind ⊕ Char) × Span

/-- What an item says, but for the value and the text of a token. -/
def Item.piece : Item → Piece
  | .token t => (.inl t.kind, t.span)
  | .illegal c span => (.inr c, span)

/-- `w` may be cut off at the head of `w ++ rest`: it is written for the kind and no pattern matches more, or it is one
character other than a space, a tab or a newline, at which no pattern matches. -/
def Heads (w rest : List Char) : Kind ⊕ Char → Prop
  | .inl kind => kind.Spells w ∧ Longest w (w ++ rest)
  | .inr c => w = [c] ∧ (c ≠ ' ' ∧ c ≠ '\t' ∧ c ≠ '\n') ∧ Unmatched (w ++ rest)

/-- A piece has its span at some characters of the text, counted from byte `o`, and may be cut off there. -/
def Placed (o : Nat) (text : List Char) (p : Piece) : Prop :=
  ∃ pre w rest, text = pre ++ w ++ rest ∧
    p.2 = ⟨o + byteLength pre, o + byteLength pre + byteLength w⟩ ∧ Heads w rest p.1

/-- The pieces into which a text is cut by longest matches, the first byte of the text being number `o`. -/
structure Munch (o : Nat) (text : List Char) (ps : List Piece) : Prop where
  /-- No span is empty. -/
  nonempty : ∀ p ∈ ps, p.2.start < p.2.stop
  /-- The spans are disjoint and in order. -/
  ordered : ps.Pairwise fun p p' => p.2.stop ≤ p'.2.start
  /-- Every piece stands between two boundaries of the text and may be cut off there. -/
  placed : ∀ p ∈ ps, Placed o text p
  /-- Every byte outside the spans is a space, a tab or a newline. -/
  covered : ∀ i b, (bytes text)[i]? = some b → (∀ p ∈ ps, ¬ (p.2.start ≤ o + i ∧ o + i < p.2.stop)) → IsGapByte b

/-! ## What can be cut off -/

theorem Shape.Matches.not_isGap {s : Shape} {c : Char} {cs : List Char} (h : s.Matches (c :: cs)) : isGap c = false := by
  have hhead := h.headShape?_eq (List.prefix_refl _)
  rw [Bool.eq_false_iff]
  intro hc
  have hnone : headShape? c = none := by rcases isGap_iff.1 hc with rfl | rfl | rfl <;> decide
  rw [hnone] at hhead
  cases hhead

theorem Heads.exists_cons {w rest : List Char} {what : Kind ⊕ Char} (h : Heads w rest what) :
    ∃ c cs, w = c :: cs ∧ isGap c = false := by
  cases what with
  | inl kind =>
    obtain ⟨s, hs, _⟩ := Kind.spells_iff.1 h.1
    obtain ⟨c, cs, rfl, _⟩ := hs.exists_cons
    exact ⟨c, cs, rfl, hs.not_isGap⟩
  | inr c =>
    obtain ⟨rfl, hc, _⟩ := h
    exact ⟨c, [], rfl, Bool.eq_false_iff.2 fun hgap => by simp [isGap_iff, hc] at hgap⟩

theorem Heads.byteLength_pos {w rest : List Char} {what : Kind ⊕ Char} (h : Heads w rest what) : 0 < byteLength w := by
  obtain ⟨c, cs, rfl, _⟩ := h.exists_cons
  exact Text.byteLength_pos (List.cons_ne_nil c cs)

/-- Where there is a lexeme, it alone can be cut off. -/
theorem heads_iff_of_lexeme {w rest : List Char} {f : Found} (hf : lexeme? (w ++ rest) = some f)
    (what : Kind ⊕ Char) :
    Heads w rest what ↔ w = f.chars ∧ rest = f.rest ∧ what = .inl (f.shape.kind f.chars) := by
  obtain ⟨hsplit, hmatch, hlong⟩ := lexeme?_spec hf
  constructor
  · intro h
    cases what with
    | inl kind =>
      obtain ⟨hspells, hw⟩ := h
      obtain ⟨s, hs, rfl⟩ := Kind.spells_iff.1 hspells
      have hfound : lexeme? (w ++ rest) = some ⟨s, w, rest⟩ := lexeme?_eq_some_iff.2 ⟨rfl, hs, hw⟩
      rw [hf] at hfound
      cases hfound
      exact ⟨rfl, rfl, rfl⟩
    | inr c => exact absurd ⟨f.rest, hsplit.symm⟩ (h.2.2 _ _ hmatch)
  · rintro ⟨rfl, rfl, rfl⟩
    exact ⟨Kind.spells_iff.2 ⟨f.shape, hmatch, rfl⟩, hlong⟩

/-- Where there is none, one character can be cut off. -/
theorem heads_iff_of_unmatched {w rest cs : List Char} {c : Char} (hw : w ++ rest = c :: cs) (hc : isGap c = false)
    (hf : lexeme? (c :: cs) = none) (what : Kind ⊕ Char) :
    Heads w rest what ↔ w = [c] ∧ rest = cs ∧ what = .inr c := by
  have hno := lexeme?_eq_none_iff.1 hf
  rw [← hw] at hno
  constructor
  · intro h
    cases what with
    | inl kind =>
      obtain ⟨s, hs, _⟩ := Kind.spells_iff.1 h.1
      exact absurd (List.prefix_append w rest) (hno s w hs)
    | inr d =>
      obtain ⟨rfl, _, _⟩ := h
      obtain ⟨rfl, rfl⟩ := List.cons.inj hw
      exact ⟨rfl, rfl, rfl⟩
  · rintro ⟨rfl, rfl, rfl⟩
    have hgap : ¬ (c = ' ' ∨ c = '\t' ∨ c = '\n') := by rw [← isGap_iff, hc]; exact Bool.false_ne_true
    exact ⟨rfl, by simpa only [not_or] using hgap, hno⟩

/-! ## Cutting off the head -/

section Head

variable {o : Nat} {w rest : List Char} {p : Piece}

theorem Placed.append (h : Placed (o + byteLength w) rest p) : Placed o (w ++ rest) p := by
  obtain ⟨pre, v, tail, rfl, hspan, hheads⟩ := h
  refine ⟨w ++ pre, v, tail, ?_, ?_, hheads⟩
  · rw [List.append_assoc, List.append_assoc, List.append_assoc]
  · rw [hspan, byteLength_append, Nat.add_assoc]

theorem Placed.of_append (h : Placed o (w ++ rest) p) (hstart : o + byteLength w ≤ p.2.start) :
    Placed (o + byteLength w) rest p := by
  obtain ⟨pre, v, tail, htext, hspan, hheads⟩ := h
  rw [hspan] at hstart
  rw [List.append_assoc] at htext
  obtain ⟨es, rfl, hrest⟩ := exists_append_of_byteLength_le htext (Nat.le_of_add_le_add_left hstart)
  refine ⟨es, v, tail, by rw [hrest, List.append_assoc], ?_, hheads⟩
  rw [hspan, byteLength_append, ← Nat.add_assoc]

theorem Placed.start_ge (h : Placed o rest p) : o ≤ p.2.start := by
  obtain ⟨pre, v, tail, _, hspan, _⟩ := h
  rw [hspan]
  exact Nat.le_add_right _ _

theorem getElem?_bytes_append (w rest : List Char) (i : Nat) :
    (bytes (w ++ rest))[byteLength w + i]? = (bytes rest)[i]? := by
  rw [bytes_append, ← length_bytes, List.getElem?_append_right (Nat.le_add_right _ _), Nat.add_sub_cancel_left]

theorem munch_gap_iff {c : Char} {cs : List Char} (hc : isGap c = true) (ps : List Piece) :
    Munch o (c :: cs) ps ↔ Munch (o + 1) cs ps := by
  obtain ⟨b, hb, hbytes⟩ := bytes_of_isGap hc cs
  have hlen : byteLength [c] = 1 := utf8Size_of_isGap hc
  constructor
  · intro h
    refine ⟨h.nonempty, h.ordered, fun p hp => ?_, fun i b' hi hout => ?_⟩
    · have hplaced := h.placed p hp
      rw [← hlen]
      refine Placed.of_append hplaced ?_
      obtain ⟨pre, v, tail, htext, hspan, hheads⟩ := hplaced
      rw [hspan, hlen]
      cases pre with
      | nil =>
        obtain ⟨d, ds, rfl, hd⟩ := hheads.exists_cons
        obtain ⟨rfl, _⟩ := List.cons.inj htext
        rw [hc] at hd
        cases hd
      | cons d pre => exact Nat.add_le_add_left (Text.byteLength_pos (List.cons_ne_nil d pre)) o
    · refine h.covered (i + 1) b' (by rw [hbytes, List.getElem?_cons_succ]; exact hi) fun p hp => ?_
      rw [← Nat.add_assoc, Nat.add_right_comm]
      exact hout p hp
  · intro h
    refine ⟨h.nonempty, h.ordered, fun p hp => ?_, fun i b' hi hout => ?_⟩
    · have hplaced := h.placed p hp
      rw [← hlen] at hplaced
      exact hplaced.append
    · rw [hbytes] at hi
      cases i with
      | zero =>
        rw [List.getElem?_cons_zero] at hi
        cases hi
        exact hb
      | succ i =>
        refine h.covered i b' (by rwa [List.getElem?_cons_succ] at hi) fun p hp => ?_
        rw [Nat.add_right_comm, Nat.add_assoc]
        exact hout p hp

/-- **Behind the gap a piece starts at once**, and the other pieces are those of the text behind it. -/
theorem munch_head_iff {c : Char} {cs : List Char} (hc : isGap c = false) (ps : List Piece) :
    Munch o (c :: cs) ps ↔ ∃ w rest what ps', w ++ rest = c :: cs ∧ Heads w rest what ∧
      ps = (what, ⟨o, o + byteLength w⟩) :: ps' ∧ Munch (o + byteLength w) rest ps' := by
  constructor
  · intro h
    -- the first byte is no gap byte, so some piece covers it
    have hfirst : ∃ p ∈ ps, p.2.start ≤ o ∧ o < p.2.stop := by
      apply Classical.byContradiction
      intro hno
      obtain ⟨b, bs, hbytes, _⟩ := head_utf8EncodeChar c
      have hget : (bytes (c :: cs))[0]? = some b := by
        rw [bytes, List.flatMap_cons, hbytes]
        rfl
      have hgap := isGap_of_head_bytes (h.covered 0 b hget fun p hp hcov => hno ⟨p, hp, hcov⟩) hget
      rw [hc] at hgap
      cases hgap
    obtain ⟨q, hq, hqstart, _⟩ := hfirst
    cases ps with
    | nil => cases hq
    | cons p ps' =>
      obtain ⟨hlater, hordered⟩ := List.pairwise_cons.1 h.ordered
      have hpstart : p.2.start ≤ o := by
        rcases List.mem_cons.1 hq with rfl | hq
        · exact hqstart
        · exact Nat.le_trans (Nat.le_of_lt (h.nonempty p List.mem_cons_self)) (Nat.le_trans (hlater q hq) hqstart)
      obtain ⟨pre, w, rest, htext, hspan, hheads⟩ := h.placed p List.mem_cons_self
      rw [hspan] at hpstart
      obtain rfl : pre = [] := byteLength_eq_zero_iff.1 (Nat.le_zero.1 (Nat.le_of_add_le_add_left hpstart))
      rw [List.nil_append] at htext
      refine ⟨w, rest, p.1, ps', htext.symm, hheads, ?_, ?_⟩
      · rw [show (⟨o, o + byteLength w⟩ : Span) = p.2 from hspan.symm]
      · have hstop : p.2.stop = o + byteLength w := by rw [hspan]; rfl
        refine ⟨fun q hq => h.nonempty q (List.mem_cons_of_mem _ hq), hordered, fun q hq => ?_, fun i b hi hout => ?_⟩
        · exact Placed.of_append (htext ▸ h.placed q (List.mem_cons_of_mem _ hq)) (hstop ▸ hlater q hq)
        · refine h.covered (byteLength w + i) b (by rw [htext, getElem?_bytes_append]; exact hi) fun q hq => ?_
          rw [← Nat.add_assoc]
          rcases List.mem_cons.1 hq with rfl | hq
          · rw [hstop]
            omega
          · exact hout q hq
  · rintro ⟨w, rest, what, ps', htext, hheads, rfl, h⟩
    have hpos := hheads.byteLength_pos
    rw [← htext]
    refine ⟨fun q hq => ?_, List.pairwise_cons.2 ⟨fun q hq => (h.placed q hq).start_ge, h.ordered⟩, fun q hq => ?_,
      fun i b hi hout => ?_⟩
    · rcases List.mem_cons.1 hq with rfl | hq
      · exact Nat.lt_add_of_pos_right hpos
      · exact h.nonempty q hq
    · rcases List.mem_cons.1 hq with rfl | hq
      · exact ⟨[], w, rest, rfl, rfl, hheads⟩
      · exact (h.placed q hq).append
    · have hbehind : byteLength w ≤ i := by
        have := hout _ List.mem_cons_self
        simp only at this
        omega
      obtain ⟨j, rfl⟩ := Nat.exists_eq_add_of_le hbehind
      rw [getElem?_bytes_append] at hi
      refine h.covered j b hi fun q hq => ?_
      rw [Nat.add_assoc]
      exact hout q (List.mem_cons_of_mem _ hq)

end Head

/-! ## The whole text -/

/-- **The items of a scan are the one cut of the text.** -/
theorem munch_iff (text : List Char) : ∀ (o : Nat) (ps : List Piece),
    Munch o text ps ↔ ps = (⟨o, text⟩ : Scanner).items.map Item.piece := by
  induction text using scan_induction with
  | nil =>
    intro o ps
    rw [items_nil]
    constructor
    · intro h
      cases ps with
      | nil => rfl
      | cons p ps =>
        obtain ⟨pre, w, rest, htext, _, hheads⟩ := h.placed p List.mem_cons_self
        obtain ⟨c, cs, rfl, _⟩ := hheads.exists_cons
        simp at htext
    · rintro rfl
      exact ⟨by simp, by simp, by simp, fun i b hi => by simp [bytes] at hi⟩
  | gap c cs hc ih =>
    intro o ps
    rw [munch_gap_iff hc, items_of_isGap hc, ih]
  | lexeme c cs f hc hf ih =>
    intro o ps
    rw [munch_head_iff hc, items_of_lexeme hc hf, List.map_cons,
      show Item.piece (.token (f.token o)) = (.inl (f.shape.kind f.chars), ⟨o, o + byteLength f.chars⟩) by
        rw [Item.piece, Found.kind_token, Found.span_token]]
    constructor
    · rintro ⟨w, rest, what, ps', htext, hheads, rfl, h⟩
      rw [← htext] at hf
      obtain ⟨rfl, rfl, rfl⟩ := (heads_iff_of_lexeme hf what).1 hheads
      rw [(ih _ _).1 h]
    · rintro rfl
      have hsplit := (lexeme?_spec hf).1
      exact ⟨f.chars, f.rest, _, _, hsplit.symm, (heads_iff_of_lexeme (hsplit ▸ hf) _).2 ⟨rfl, rfl, rfl⟩, rfl,
        (ih _ _).2 rfl⟩
  | illegal c cs hc hf ih =>
    intro o ps
    rw [munch_head_iff hc, items_of_unmatched hc hf, List.map_cons]
    constructor
    · rintro ⟨w, rest, what, ps', htext, hheads, rfl, h⟩
      obtain ⟨rfl, rfl, rfl⟩ := (heads_iff_of_unmatched htext hc hf what).1 hheads
      rw [(ih _ _).1 h]
      rfl
    · rintro rfl
      exact ⟨[c], cs, .inr c, _, rfl, (heads_iff_of_unmatched rfl hc hf _).2 ⟨rfl, rfl, rfl⟩, rfl, (ih _ _).2 rfl⟩

example : (scan "\"á\" é").map Item.piece = [(.inl .quoted, ⟨0, 4⟩), (.inr 'é', ⟨5, 7⟩)] := by cbv

/-- **A scan is the maximal munch of its text.**  Its items are the one cut of the text into longest matches and illegal
characters; every token but a number carries exactly the characters of its span; and pulling gives these items, one
after the other, and then nothing ever after. -/
theorem scan_eq_munch (source : String) :
    (∀ ps, Munch 0 source.toList ps ↔ ps = (scan source).map Item.piece) ∧
    (∀ t, .token t ∈ scan source → t.kind ≠ .number →
      ∃ w, slice? t.span.start t.span.stop source.toList = some w ∧ t.value = .text (String.ofList w) ∧
        t.text = String.ofList w) ∧
    ∀ n, ((fun s : Scanner => s.pull.2)^[n] (Scanner.ofChars source.toList)).pull.1 = (scan source)[n]? := by
  refine ⟨munch_iff source.toList 0, fun t ht hkind => ?_, fun n => pull_iterate n _⟩
  obtain ⟨pre, f, htext, _, rfl⟩ := exists_found_of_mem_items source.toList 0 t ht
  rw [Nat.zero_add] at hkind ⊢
  have hshape : f.shape ≠ .number := by
    intro hs
    rw [Found.kind_token, hs] at hkind
    exact hkind rfl
  refine ⟨f.chars, ?_, Found.value_token hshape _⟩
  rw [Found.span_token, htext]
  exact slice?_append pre f.chars f.rest

end Plantilla
