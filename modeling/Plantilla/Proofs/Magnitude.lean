import Plantilla.Proofs.Dumping
/-!
# Magnitude — numbers of any size

A number token has a value of 64 bits and a text.  Which of the two branches it comes from does not show: the value is the
number up to the largest word (`Token.value_ofDigits`), and the text is the numeral of the number whether or not it fits
(`Token.text_ofDigits`).  In one branch the text is written from the value, in the other it is what is left of the digits
without the zeros in front; they meet because a number has one numeral only (`Numeral.writes_iff`).
-/
namespace Plantilla

open Text

namespace Numeral

/-- How a number is written: digits that denote it, with no zero in front of another digit. -/
structure Writes (n : Nat) (w : List Char) : Prop where
  nonempty : w ≠ []
  digits : ∀ d ∈ w, isDigit d = true
  value : ofDigits w = n
  first : w.head? = some '0' → w = ['0']

theorem ofDigits_concat (ds : List Char) (d : Char) : ofDigits (ds ++ [d]) = 10 * ofDigits ds + digitValue d := by
  rw [ofDigits, List.foldl_append]
  rfl

theorem digitValue_lt {d : Char} (h : isDigit d = true) : digitValue d < 10 := by
  simp only [isDigit, Bool.and_eq_true, decide_eq_true_eq, Char.le_def, UInt32.le_iff_toNat_le] at h
  have hhi : d.toNat ≤ 57 := h.2
  rw [digitValue]
  omega

theorem digitChar_digitValue {d : Char} (h : isDigit d = true) : (digitValue d).digitChar = d := by
  simp only [isDigit, Bool.and_eq_true, decide_eq_true_eq, Char.le_def, UInt32.le_iff_toNat_le] at h
  have hlo : 48 ≤ d.toNat := h.1
  have hhi : d.toNat ≤ 57 := h.2
  apply Char.toNat_inj.1
  rw [Nat.toNat_digitChar_of_lt_ten (by rw [digitValue]; omega), digitValue]
  omega

/-- A number of several digits is the one without the last digit, written, and the last digit. -/
theorem text_concat {n d : Nat} (hpos : 0 < n) (hd : d < 10) :
    (text (10 * n + d)).toList = (text n).toList ++ [d.digitChar] := by
  rw [toList_text, toList_text, ← Nat.toDigits_append_toDigits (by decide) hpos hd, Nat.toDigits_of_lt_base hd]

theorem writes_text (n : Nat) : Writes n (text n).toList where
  nonempty := text_ne_nil n
  digits _ := isDigit_of_mem_text
  value := ofDigits_text n
  first h := by
    rcases Nat.eq_zero_or_pos n with rfl | hpos
    · rfl
    · exact absurd h (head_text_ne_zero hpos)

/-- **A number is written in one way only.** -/
theorem writes_iff {n : Nat} {w : List Char} : Writes n w ↔ w = (text n).toList := by
  refine ⟨fun h => ?_, fun h => h ▸ writes_text n⟩
  induction w using List.reverseRecOn generalizing n with
  | nil => exact absurd rfl h.nonempty
  | append_singleton ds d ih =>
    have hdigit := h.digits d (by simp)
    have hvalue := h.value
    rw [ofDigits_concat] at hvalue
    by_cases hds : ds = []
    · subst hds
      have hn : digitValue d = n := by rw [← hvalue]; exact (Nat.zero_add _).symm
      rw [← hn, toList_text, Nat.toDigits_of_lt_base (digitValue_lt hdigit), digitChar_digitValue hdigit]
      rfl
    · -- the digits in front do not start with a zero, for then they would be followed by nothing
      have hhead : ds.head? ≠ some '0' := by
        intro hzero
        have hall := h.first (by rw [List.head?_append_of_ne_nil _ hds, hzero])
        have hlength := congrArg List.length hall
        rw [List.length_append, List.length_singleton, List.length_singleton] at hlength
        exact hds (List.length_eq_zero_iff.1 (by omega))
      have hfront := ih ⟨hds, fun e he => h.digits e (List.mem_append_left _ he), rfl, fun hzero => absurd hzero hhead⟩
      have hpos : 0 < ofDigits ds := by
        refine Nat.pos_of_ne_zero fun hzero => hhead ?_
        rw [hfront, hzero]
        rfl
      rw [← hvalue, text_concat hpos (digitValue_lt hdigit), ← hfront, digitChar_digitValue hdigit]

end Numeral

/-! ## Number tokens -/

namespace Token

theorem text_ofDigits {ds : List Char} (hdigits : ∀ d ∈ ds, Numeral.isDigit d = true) (span : Span) :
    (ofDigits ds span).text = Numeral.text (Numeral.ofDigits ds) := by
  unfold ofDigits
  split
  · rfl
  · rename_i hword
    have hwrites : Numeral.Writes (Numeral.ofDigits ds) (ds.dropWhile (· == '0')) := by
      refine ⟨fun hnil => ?_, fun d hd => hdigits d ((List.dropWhile_sublist _).subset hd),
        Numeral.ofDigits_dropWhile_zero ds, fun hzero => ?_⟩
      · -- zeros alone would be a number that fits
        rw [← Numeral.ofDigits_dropWhile_zero, hnil] at hword
        exact hword (Nat.zero_le _)
      · have hhead := List.head?_dropWhile_not (· == '0') ds
        rw [hzero] at hhead
        cases hhead
    rw [← String.toList_inj, String.toList_ofList]
    exact Numeral.writes_iff.1 hwrites

end Token

/-- **A number token stops at 64 bits and still names its number.**  Its span cuts digits out of the text.  Its value is
the number that they denote, or the largest word if that is less; its text is the numeral of the number, whatever its
size.  So two number tokens have the same text exactly if their digits denote the same number, and the message that tells
of one names the number itself. -/
theorem number_names_itself {source : String} {t : Token} (ht : .token t ∈ scan source) (hkind : t.kind = .number) :
    ∃ ds, slice? t.span.start t.span.stop source.toList = some ds ∧ Shape.number.Matches ds ∧
      t.value = .integer (min (Numeral.ofDigits ds) 18446744073709551615) ∧
      t.text = Numeral.text (Numeral.ofDigits ds) ∧ Numeral.Writes (Numeral.ofDigits ds) t.text.toList ∧
      (∀ expected, (Diagnostic.unexpectedToken t expected).message
        = "Error de sintaxis en token '" ++ Numeral.text (Numeral.ofDigits ds) ++ "'") ∧
      ∀ source' t' ds', .token t' ∈ scan source' → t'.kind = .number →
        slice? t'.span.start t'.span.stop source'.toList = some ds' →
          (t.text = t'.text ↔ Numeral.ofDigits ds = Numeral.ofDigits ds') := by
  obtain ⟨ds, span, hslice, hmatch, htoken⟩ := exists_digits_of_number ht hkind
  have hword : Numeral.maxWord = 18446744073709551615 := rfl
  have hvalue : t.value = .integer (min (Numeral.ofDigits ds) 18446744073709551615) := by
    rw [htoken, Token.value_ofDigits, hword]
  have htext : t.text = Numeral.text (Numeral.ofDigits ds) := by
    rw [htoken, Token.text_ofDigits hmatch.2]
  have hwrites : Numeral.Writes (Numeral.ofDigits ds) t.text.toList := by
    rw [htext]
    exact Numeral.writes_text _
  refine ⟨ds, hslice, hmatch, hvalue, htext, hwrites, fun expected => ?_, ?_⟩
  · show "Error de sintaxis en token '" ++ t.text ++ "'" = _
    rw [htext]
  · intro source' t' ds' ht' hkind' hslice'
    obtain ⟨_, span', hslice'', hmatch', rfl⟩ := exists_digits_of_number ht' hkind'
    obtain rfl := Option.some.inj (hslice'.symm.trans hslice'')
    rw [htext, Token.text_ofDigits hmatch'.2, Numeral.text_injective.eq_iff]

/-- Two to the power of 64 with zeros in front, and without them further on in another text. -/
theorem number_names_itself_past_word : ∃ t t', .token t ∈ scan "0018446744073709551616" ∧ t.kind = .number ∧
    .token t' ∈ scan "(18446744073709551616" ∧ t'.kind = .number ∧
    t.value = .integer 18446744073709551615 ∧ t.text = t'.text ∧
    (Diagnostic.unexpectedToken t []).message = "Error de sintaxis en token '18446744073709551616'" := by
  have ht : .token (Token.ofDigits "0018446744073709551616".toList ⟨0, 22⟩) ∈ scan "0018446744073709551616" := by
    decide +kernel
  have ht' : .token (Token.ofDigits "18446744073709551616".toList ⟨1, 21⟩) ∈ scan "(18446744073709551616" := by
    decide +kernel
  have hcut : slice? 0 22 "0018446744073709551616".toList = some "0018446744073709551616".toList := by decide +kernel
  have hcut' : slice? 1 21 "(18446744073709551616".toList = some "18446744073709551616".toList := by decide +kernel
  obtain ⟨ds, hslice, _, hvalue, _, _, hmessage, hsame⟩ := number_names_itself ht (by decide)
  obtain rfl := Option.some.inj (hcut.symm.trans hslice)
  have htext := (hsame _ _ _ ht' (by decide) hcut').2 (by decide)
  exact ⟨_, _, ht, by decide, ht', by decide, hvalue.trans (by decide), htext, (hmessage []).trans (by decide)⟩

end Plantilla
