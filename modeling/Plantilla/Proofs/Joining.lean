import Plantilla.Proofs.Parity
import Plantilla.Proofs.Rebase
/-!
# Joining — texts with a gap between them

Two texts with a space, a tab or a newline between them scan as if each stood alone, unless a string is still open where
the first one ends.  Whether one is open is a matter of parity: a lexeme holds no quote or two, and a quote that is never
closed is the last of an odd number, so as long as the quotes of a text are even, what a scan leaves of it has an even
number too (`carried_even`), and then no lexeme goes on across the gap (`fits_of_even`).  Behind an odd number the
texts can be told from their joint (`scan_join_iff`).
-/
namespace Plantilla

open Text Scanner

theorem Shape.Matches.eq_quoted_of_isGap {s : Shape} {w : List Char} (h : s.Matches w) {c : Char} (hc : c ∈ w)
    (hgap : isGap c = true) : s = .quoted := by
  apply Classical.byContradiction
  intro hs
  have hprint := (h.isPrintable hs c hc).not_isBlank
  rw [isBlank_of_isGap hgap] at hprint
  cases hprint

/-- In front of a character inside a string only the quote that opens it has been read. -/
theorem Shape.Matches.count_quote_front {front back : List Char} {c : Char}
    (h : Shape.quoted.Matches (front ++ c :: back)) (hc : c ≠ '"') : front.count '"' = 1 := by
  obtain ⟨body, hbody, hfree⟩ := h
  cases front with
  | nil => exact absurd (List.cons.inj hbody).1 hc
  | cons q front =>
    rw [List.cons_append, List.cons.injEq] at hbody
    obtain ⟨rfl, hbody⟩ := hbody
    have hfront : '"' ∉ front := by
      rcases List.append_eq_append_iff.1 hbody with ⟨inside, rfl, _⟩ | ⟨inside, rfl, hclose⟩
      · exact fun hmem => hfree (List.mem_append_left _ hmem)
      · cases inside with
        | nil => exact absurd (List.cons.inj hclose).1.symm hc
        | cons d inside => simp at hclose
    rw [List.count_cons_self, List.count_eq_zero_of_not_mem hfront]

/-- Behind an even number of quotes no lexeme goes on across a gap. -/
theorem fits_of_even {cs : List Char} (heven : Even (cs.count '"')) {w : Char} (hw : isGap w = true) (bs : List Char) :
    Fits cs (w :: bs) := by
  rintro s v hv ⟨t, ht⟩
  rcases List.append_eq_append_iff.1 ht with ⟨es, rfl, _⟩ | ⟨es, rfl, hes⟩
  · exact List.prefix_append v es
  · cases es with
    | nil => simp
    | cons c es =>
      obtain rfl : w = c := (List.cons.inj hes).1
      have hquote : w ≠ '"' := by rintro rfl; cases hw
      obtain rfl := hv.eq_quoted_of_isGap (by simp) hw
      rw [hv.count_quote_front hquote] at heven
      exact absurd heven (by decide)

theorem carried_even : Carried fun cs => Even (cs.count '"') where
  gap {c cs} hc h := by
    have hquote : c ≠ '"' := by rintro rfl; cases hc
    rwa [List.count_cons_of_ne hquote] at h
  lexeme {cs f} hf h := by
    obtain ⟨hsplit, hmatch, _⟩ := lexeme?_spec hf
    rw [hsplit, List.count_append, Nat.even_add] at h
    exact h.1 hmatch.even_count_quote
  illegal {c cs} hc hf h := by
    rcases stray_nil.1 ((lexeme?_cons_eq_none_iff hc).1 hf) with hno | ⟨rfl, hfree⟩
    · have hquote : c ≠ '"' := by
        rintro rfl
        exact hno (.inl (by decide))
      rwa [List.count_cons_of_ne hquote] at h
    · -- the one quote left would be odd
      rw [List.count_cons_self, List.count_eq_zero_of_not_mem hfree] at h
      exact absurd h (by decide)

theorem exists_illegal_quote_iff (source : String) :
    (∃ span, .illegal '"' span ∈ scan source) ↔ Odd (source.toList.count '"') := by
  constructor
  · rintro ⟨span, h⟩
    obtain ⟨pre, post, htext, _, _, hno | hunpaired⟩ := illegal_mem_scan_iff.1 h
    · exact absurd (.inl (by decide)) hno
    · rw [htext]
      exact hunpaired.2.2
  · intro hodd
    obtain ⟨pre, post, htext, hfree⟩ := exists_last_of_odd hodd
    rw [htext] at hodd
    have hstray : Stray pre '"' post := ⟨fun h => (enclosed_iff.1 h).1 rfl, .inr ⟨rfl, hfree, hodd⟩⟩
    exact ⟨_, illegal_mem_scan_iff.2 ⟨pre, post, htext, rfl, hstray⟩⟩

theorem scan_join {a : String} (heven : Even (a.toList.count '"')) {w : Char} (hw : isGap w = true) (b : String) :
    scan (a ++ String.singleton w ++ b) = scan a ++ (scan b).map (Item.shift (a.utf8ByteSize + 1)) := by
  have htext : (a ++ String.singleton w ++ b).toList = a.toList ++ w :: b.toList := by simp
  have hsplit := items_append carried_even (fun _ h => fits_of_even h hw b.toList) a.toList 0 heven
  rw [items_of_isGap hw, Nat.add_assoc, items_add, byteLength_toList] at hsplit
  rw [scan, htext]
  exact hsplit

/-- **Texts with a gap between them scan one after the other exactly if the quotes of the first are even.**  Then its items
come first, and those of the second as many bytes further on as the first text and the gap take.  If the quotes are odd,
this fails for the text of a single quote, which closes the string that the first text leaves open. -/
theorem scan_join_iff (a : String) : Even (a.toList.count '"') ↔ ∀ (w : Char) (b : String), w ∈ [' ', '\t', '\n'] →
    scan (a ++ String.singleton w ++ b) = scan a ++ (scan b).map (Item.shift (a.utf8ByteSize + 1)) := by
  constructor
  · intro heven w b hw
    exact scan_join heven (isGap_iff.2 (by simpa using hw)) b
  · intro h
    apply Classical.byContradiction
    intro hodd
    rw [Nat.not_even_iff_odd] at hodd
    obtain ⟨span, hillegal⟩ := (exists_illegal_quote_iff a).2 hodd
    have hclosed : Odd ((a ++ String.singleton ' ' ++ "\"").toList.count '"') := by
      refine (exists_illegal_quote_iff _).1 ⟨span, ?_⟩
      rw [h ' ' "\"" (by decide)]
      exact List.mem_append_left _ hillegal
    have hcount : (a ++ String.singleton ' ' ++ "\"").toList.count '"' = a.toList.count '"' + 1 := by simp
    rw [hcount, Nat.odd_add_one] at hclosed
    exact hclosed hodd

/-- A string with a gap in it, and behind the newline a quote that is never closed. -/
theorem scan_join_open_behind : Even ("si \"a b\"".toList.count '"') ∧
    (scan ("si \"a b\"" ++ String.singleton '\n' ++ "ñ \"x")).map Item.piece
      = [(.inl .ifWord, ⟨0, 2⟩), (.inl .quoted, ⟨3, 8⟩), (.inr 'ñ', ⟨9, 11⟩), (.inr '"', ⟨12, 13⟩),
        (.inl .ident, ⟨13, 14⟩)] := by
  have heven : Even ("si \"a b\"".toList.count '"') := by decide
  refine ⟨heven, ?_⟩
  rw [(scan_join_iff _).1 heven '\n' "ñ \"x" (by decide)]
  decide +kernel

end Plantilla
