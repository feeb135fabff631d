import Mathlib.Data.List.TakeDrop
import Plantilla.Yaml.Reader
/-!
# Scalars — a text read back from its scalar

Each style is read back by itself: the escapes between double quotes (`readDouble_flatMap`), the doubled quotes and the
indents between single quotes (`readSingle_singleBody`), the lines of a block (`readLiteral_literalBody`).  The first
character tells the styles apart, because no plain text starts with a quote or a bar (`head_of_allowsPlain`).  A block
needs one thing of what follows it: that it is not indented as deep (`Outdented`).  So whatever a text is, it is read
back from its scalar and from the lines behind it (`readScalar_scalar`).
-/
namespace Plantilla
namespace Yaml

/-! ## Between double quotes -/

theorem digitIn?_hex : ∀ d < 16,
    digitIn? 16 (if d < 10 then Char.ofNat (48 + d) else Char.ofNat (55 + d)) = some d := by
  decide

theorem length_hexText : ∀ width n : Nat, (hexText width n).length = width
  | 0, _ => rfl
  | width + 1, n => by rw [hexText, List.length_append, length_hexText width]; rfl

theorem foldl_hexText : ∀ width n : Nat, n < Nat.pow 16 width →
    (hexText width n).foldl (fun n? c => n?.bind fun n => (digitIn? 16 c).map fun d => 16 * n + d) (some 0) = some n
  | 0, n, h => by
    obtain rfl : n = 0 := Nat.lt_one_iff.1 h
    rfl
  | width + 1, n, h => by
    have hhigh : n / 16 < Nat.pow 16 width := Nat.div_lt_of_lt_mul (by rw [Nat.mul_comm]; exact h)
    have hlow := digitIn?_hex (n % 16) (Nat.mod_lt n (by decide))
    rw [hexText, List.foldl_append, foldl_hexText width _ hhigh]
    simp only [List.foldl_cons, List.foldl_nil, Option.bind_some, hlow, Option.map_some, Nat.div_add_mod]

theorem numberIn?_hexText {width n : Nat} (hpos : 0 < width) (h : n < Nat.pow 16 width) :
    numberIn? 16 (hexText width n) = some n := by
  have hne : hexText width n ≠ [] := by
    rw [← List.length_pos_iff, length_hexText]
    exact hpos
  rw [numberIn?, if_neg hne, foldl_hexText width n h]

/-- A character between double quotes is an escape of one letter, its number in a width that holds it, or itself. -/
theorem doubleEscape_cases (c : Char) :
    (∃ e, hexWidth? e = none ∧ shortEscapes.lookup e = some c ∧ doubleEscape c = ['\\', e]) ∨
    (∃ e width, hexWidth? e = some width ∧ 0 < width ∧ c.toNat < Nat.pow 16 width ∧
      doubleEscape c = '\\' :: e :: hexText width c.toNat) ∨
    (c ≠ '"' ∧ c ≠ '\\' ∧ doubleEscape c = [c]) := by
  by_cases hshort : c ∈ shortEscapes.map Prod.snd
  · simp only [shortEscapes, List.map_cons, List.map_nil, List.mem_cons, List.not_mem_nil, or_false] at hshort
    rcases hshort with rfl | rfl | rfl | rfl | rfl | rfl | rfl | rfl | rfl | rfl | rfl | rfl | rfl | rfl
    all_goals exact .inl ⟨_, rfl, rfl, rfl⟩
  · simp only [shortEscapes, List.map_cons, List.map_nil, List.mem_cons, List.not_mem_nil, or_false, not_or] at hshort
    obtain ⟨h0, ha, hb, ht, hn, hv, hf, hr, he, hquote, hback, hN, hL, hP⟩ := hshort
    have hescape : doubleEscape c = if isPrintable c then [c]
        else if c.toNat ≤ 0xFF then ['\\', 'x'] ++ hexText 2 c.toNat
        else if c.toNat ≤ 0xFFFF then ['\\', 'u'] ++ hexText 4 c.toNat
        else ['\\', 'U'] ++ hexText 8 c.toNat := by
      simp only [doubleEscape, h0, ha, hb, ht, hn, hv, hf, hr, he, hquote, hback, hN, hL, hP, if_false]
    rw [hescape]
    split
    · exact .inr (.inr ⟨hquote, hback, rfl⟩)
    · refine .inr (.inl ?_)
      split
      · exact ⟨'x', 2, rfl, by decide, Nat.lt_succ_of_le ‹_›, rfl⟩
      · split
        · exact ⟨'u', 4, rfl, by decide, Nat.lt_succ_of_le ‹_›, rfl⟩
        · exact ⟨'U', 8, rfl, by decide, c.val.toNat_lt, rfl⟩

theorem readEscape_hexText {e : Char} {width : Nat} (he : hexWidth? e = some width) (hpos : 0 < width) {c : Char}
    (hc : c.toNat < Nat.pow 16 width) (rest : List Char) :
    readEscape (e :: (hexText width c.toNat ++ rest)) = some (c, rest) := by
  have hlength := length_hexText width c.toNat
  rw [readEscape, he]
  simp only [List.take_left' hlength, List.drop_left' hlength, numberIn?_hexText hpos hc, Option.map_some,
    Char.ofNat_toNat]

theorem readDouble_doubleEscape (fuel : Nat) (c : Char) (rest : List Char) :
    readDouble (fuel + 1) (doubleEscape c ++ rest) = (readDouble fuel rest).map fun q => (c :: q.1, q.2) := by
  rcases doubleEscape_cases c with ⟨e, hwidth, hlookup, hescape⟩ | ⟨e, width, hwidth, hpos, hc, hescape⟩ |
    ⟨hquote, hback, hescape⟩
  · have hread : readEscape (e :: rest) = some (c, rest) := by
      rw [readEscape, hwidth]
      simp only [hlookup, Option.map_some]
    rw [hescape, List.cons_append, List.singleton_append, readDouble, if_neg (by decide), if_pos rfl, hread]
    rfl
  · rw [hescape, List.cons_append, List.cons_append, readDouble, if_neg (by decide), if_pos rfl,
      readEscape_hexText hwidth hpos hc]
    rfl
  · rw [hescape, List.singleton_append, readDouble, if_neg hquote, if_neg hback]

theorem readDouble_flatMap (rest : List Char) : ∀ (cs : List Char) (fuel : Nat), cs.length < fuel →
    readDouble fuel (cs.flatMap doubleEscape ++ '"' :: rest) = some (cs, rest)
  | [], fuel + 1, _ => by rw [List.flatMap_nil, List.nil_append, readDouble, if_pos rfl]
  | c :: cs, fuel + 1, h => by
    rw [List.flatMap_cons, List.append_assoc, readDouble_doubleEscape,
      readDouble_flatMap rest cs fuel (Nat.lt_of_succ_lt_succ h)]
    rfl

theorem length_le_length_flatMap_doubleEscape : ∀ cs : List Char, cs.length ≤ (cs.flatMap doubleEscape).length
  | [] => Nat.le_refl _
  | c :: cs => by
    have hpos : 0 < (doubleEscape c).length := by
      rcases doubleEscape_cases c with ⟨e, _, _, h⟩ | ⟨e, width, _, _, _, h⟩ | ⟨_, _, h⟩ <;> rw [h] <;>
        exact Nat.succ_pos _
    have ih := length_le_length_flatMap_doubleEscape cs
    rw [List.flatMap_cons, List.length_append, List.length_cons]
    omega

/-! ## Indents -/

section Skip

variable {β : Type} {read : Nat → List Char → β} (hskip : ∀ n cs, read (n + 1) (' ' :: cs) = read n cs)

include hskip

theorem skip_pad (cs : List Char) : ∀ n : Nat, read n (pad n ++ cs) = read 0 cs
  | 0 => rfl
  | n + 1 => by
    rw [pad, List.replicate_succ, List.cons_append, hskip]
    exact skip_pad cs n

/-- The indent stands at the start of a line only, and is skipped there only. -/
theorem skip_fresh (indent : Nat) (fresh : Bool) (cs : List Char) :
    read (if fresh then indent else 0) ((if fresh then pad indent else []) ++ cs) = read 0 cs := by
  cases fresh with
  | true => exact skip_pad hskip cs indent
  | false => rfl

end Skip

/-! ## Between single quotes -/

section Single

variable {indent : Nat} {c : Char} {r : List Char}

theorem readSingle_break (hc : isBreak c = true) (skip : Nat) :
    readSingle indent skip (c :: r) = (readSingle indent indent r).map fun q => (c :: q.1, q.2) := by
  rw [readSingle.eq_def]
  simp only [hc, if_true]

theorem readSingle_skip (skip : Nat) (r : List Char) : readSingle indent (skip + 1) (' ' :: r) = readSingle indent skip r := by
  rw [readSingle.eq_def]
  rfl

theorem readSingle_char (hc : isBreak c = false) (hquote : c ≠ '\x27') :
    readSingle indent 0 (c :: r) = (readSingle indent 0 r).map fun q => (c :: q.1, q.2) := by
  rw [readSingle.eq_def]
  simp only [hc, hquote, Bool.false_eq_true, if_false]

theorem readSingle_quote : readSingle indent 0 ('\x27' :: '\x27' :: r)
    = (readSingle indent 0 r).map fun q => ('\x27' :: q.1, q.2) := by
  rw [readSingle.eq_def]
  rfl

theorem readSingle_close (hr : r.head? ≠ some '\x27') : readSingle indent 0 ('\x27' :: r) = some ([], r) := by
  have hbreak : isBreak '\x27' = false := by decide
  rw [readSingle.eq_def]
  simp only [hbreak, Bool.false_eq_true, if_false, if_true]
  split
  · exact absurd rfl hr
  · rfl

end Single

theorem readSingle_singleBody (indent : Nat) {rest : List Char} (hrest : rest.head? ≠ some '\x27') :
    ∀ (cs : List Char) (fresh : Bool),
      readSingle indent (if fresh then indent else 0) (singleBody indent fresh cs ++ rest) = some (cs, rest)
  | [], fresh => by
    rw [singleBody, List.append_assoc, skip_fresh readSingle_skip]
    exact readSingle_close hrest
  | c :: cs, fresh => by
    cases hbreak : isBreak c with
    | true =>
      have ih := readSingle_singleBody indent hrest cs true
      rw [if_pos rfl] at ih
      rw [singleBody, if_pos hbreak, List.cons_append, readSingle_break hbreak, ih]
      rfl
    | false =>
      have ih := readSingle_singleBody indent hrest cs false
      rw [if_neg Bool.false_ne_true] at ih
      rw [singleBody, hbreak, if_neg Bool.false_ne_true, List.append_assoc, List.append_assoc, skip_fresh readSingle_skip]
      by_cases hquote : c = '\x27'
      · rw [if_pos hquote, hquote, List.cons_append, List.singleton_append, readSingle_quote, ih]
        rfl
      · rw [if_neg hquote, List.singleton_append, readSingle_char hbreak hquote, ih]
        rfl

/-! ## In a block -/

section Literal

variable {indent : Nat} {c : Char} {r : List Char}

theorem readLiteral_break (hc : isBreak c = true) (skip : Nat) :
    readLiteral indent skip (c :: r) = (c :: (readLiteral indent indent r).1, (readLiteral indent indent r).2) := by
  rw [readLiteral.eq_def]
  simp only [hc, if_true]

theorem readLiteral_skip (skip : Nat) (r : List Char) : readLiteral indent (skip + 1) (' ' :: r) = readLiteral indent skip r := by
  rw [readLiteral.eq_def]
  rfl

theorem readLiteral_short (hc : isBreak c = false) (hspace : c ≠ ' ') (skip : Nat) :
    readLiteral indent (skip + 1) (c :: r) = ([], pad (indent - (skip + 1)) ++ c :: r) := by
  rw [readLiteral.eq_def]
  simp only [hc, hspace, Bool.false_eq_true, if_false]

theorem readLiteral_char (hc : isBreak c = false) :
    readLiteral indent 0 (c :: r) = (c :: (readLiteral indent 0 r).1, (readLiteral indent 0 r).2) := by
  rw [readLiteral.eq_def]
  simp only [hc, Bool.false_eq_true, if_false]

end Literal

/-- What follows starts with fewer spaces than the indent, and then with something else. -/
def Outdented (indent : Nat) (rest : List Char) : Prop :=
  ∃ n < indent, ∃ tail, rest = pad n ++ tail ∧ ∀ c ∈ tail.head?, c ≠ ' ' ∧ isBreak c = false

/-- Too short an indent ends a block, and is given back. -/
theorem readLiteral_pad_short (indent : Nat) {tail : List Char}
    (htail : ∀ c ∈ tail.head?, c ≠ ' ' ∧ isBreak c = false) : ∀ n skip : Nat, n < skip → skip ≤ indent →
      readLiteral indent skip (pad n ++ tail) = ([], pad (indent - skip) ++ (pad n ++ tail))
  | 0, skip + 1, _, _ => by
    rw [pad, List.replicate_zero, List.nil_append]
    cases tail with
    | nil => rw [readLiteral, List.append_nil]
    | cons c tail =>
      obtain ⟨hspace, hbreak⟩ := htail c rfl
      exact readLiteral_short hbreak hspace skip
  | n + 1, skip + 1, hn, hskip => by
    have ih := readLiteral_pad_short indent htail n skip (Nat.lt_of_succ_lt_succ hn) (Nat.le_of_succ_le hskip)
    have hgiven : pad (indent - skip) = pad (indent - (skip + 1)) ++ [' '] := by
      rw [show indent - skip = indent - (skip + 1) + 1 by omega, pad, List.replicate_succ']
      rfl
    rw [show pad (n + 1) = ' ' :: pad n from List.replicate_succ, List.cons_append, readLiteral_skip, ih, hgiven,
      List.append_assoc]
    rfl

theorem readLiteral_outdented {indent : Nat} {rest : List Char} (h : Outdented indent rest) :
    readLiteral indent indent rest = ([], rest) := by
  obtain ⟨n, hn, tail, rfl, htail⟩ := h
  rw [readLiteral_pad_short indent htail n indent hn (Nat.le_refl _), Nat.sub_self]
  rfl

/-- The lines of a block, each ended by a break, are read back up to what follows.  `fresh` says that a line was just
started, so that there may be none. -/
theorem readLiteral_literalBody {indent : Nat} {rest : List Char} (hrest : Outdented indent rest) :
    ∀ (cs : List Char) (fresh : Bool), cs.getLast?.elim fresh isBreak = true →
      readLiteral indent (if fresh then indent else 0) (literalBody indent fresh cs ++ rest) = (cs, rest)
  | [], fresh, h => by
    obtain rfl : fresh = true := h
    exact readLiteral_outdented hrest
  | c :: cs, fresh, h => by
    have hlast : cs.getLast?.elim (isBreak c) isBreak = true := by
      rw [List.getLast?_cons] at h
      cases hcs : cs.getLast? <;> simpa [hcs] using h
    cases hbreak : isBreak c with
    | true =>
      rw [hbreak] at hlast
      have ih := readLiteral_literalBody hrest cs true hlast
      rw [if_pos rfl] at ih
      rw [literalBody, if_pos hbreak, List.cons_append, readLiteral_break hbreak, ih]
    | false =>
      rw [hbreak] at hlast
      have ih := readLiteral_literalBody hrest cs false hlast
      rw [if_neg Bool.false_ne_true] at ih
      rw [literalBody, hbreak, if_neg Bool.false_ne_true, List.append_assoc, skip_fresh readLiteral_skip, List.cons_append,
        readLiteral_char hbreak, ih]

/-! ## Styles -/

theorem styleOf_plain {s : String} (h : styleOf s = .plain) :
    '\n' ∉ s.toList ∧ readsOtherwise s = false ∧ allowsPlain s.toList = true := by
  simp only [styleOf] at h
  split at h
  · split at h <;> cases h
  · rename_i hbreak
    split at h
    · cases h
    · split at h
      · cases h
      · rename_i hplain
        simpa using And.intro hbreak hplain

theorem head_of_allowsPlain {c : Char} {cs : List Char} (h : allowsPlain (c :: cs) = true) :
    c ≠ '"' ∧ c ≠ '\x27' ∧ c ≠ '|' := by
  have hindicator : startsWithIndicator (c :: cs) = false := by
    simp only [allowsPlain, Bool.not_eq_true', Bool.or_eq_false_iff] at h
    exact h.1.1.2
  refine ⟨?_, ?_, ?_⟩ <;> rintro rfl <;> cases hindicator

theorem scalarEnd_of_ne_literal {s : String} (h : styleOf s ≠ .literal) : scalarEnd s = ['\n'] := by
  rw [scalarEnd, decide_eq_false h]
  rfl

theorem span_newline {cs : List Char} (h : '\n' ∉ cs) (rest : List Char) :
    (cs ++ '\n' :: rest).span (· != '\n') = (cs, '\n' :: rest) := by
  have hcs : ∀ c ∈ cs, (c != '\n') = true := fun c hc => bne_iff_ne.2 fun heq => h (heq ▸ hc)
  rw [List.span_eq_takeWhile_dropWhile, List.takeWhile_append_of_pos hcs, List.dropWhile_append_of_pos hcs]
  simp

theorem newline_not_mem_literalHints (cs : List Char) : '\n' ∉ literalHints cs := by
  unfold literalHints
  split <;> split <;> (try split) <;> (try split) <;> decide

/-- The hints say that the last break is to be dropped exactly where the text does not end in one. -/
theorem contains_literalHints (cs : List Char) : (literalHints cs).contains '-' = !cs.getLast?.any isBreak := by
  have hfront : ∀ (b : Bool) (hints : List Char),
      ((if b then ['2'] else []) ++ hints).contains '-' = hints.contains '-' := by
    intro b hints
    cases b <;> rfl
  rw [literalHints, hfront, ← List.head?_reverse]
  match cs.reverse with
  | [] => rfl
  | [c] =>
    show (if isBreak c then ['+'] else ['-']).contains '-' = !isBreak c
    cases isBreak c <;> rfl
  | c :: b :: _ =>
    show (if !isBreak c then ['-'] else if isBreak b then ['+'] else []).contains '-' = !isBreak c
    cases isBreak c <;> cases isBreak b <;> rfl

theorem literalBody_append_newline (indent : Nat) : ∀ (cs : List Char) (fresh : Bool),
    literalBody indent fresh cs ++ ['\n'] = literalBody indent fresh (cs ++ ['\n'])
  | [], _ => rfl
  | c :: cs, fresh => by
    rw [List.cons_append, literalBody, literalBody]
    split
    · rw [List.cons_append, literalBody_append_newline indent cs true]
    · rw [List.append_assoc, List.cons_append, literalBody_append_newline indent cs false]

/-- The text and the lines of a literal block are read back: with the break that ends the block where the text ends in
one, and without it where it does not. -/
theorem readLiteral_literal {indent : Nat} {rest : List Char} (hrest : Outdented indent rest) {s : String}
    (hstyle : styleOf s = .literal) :
    let q := readLiteral indent indent (literalBody indent true s.toList ++ scalarEnd s ++ rest)
    (if (literalHints s.toList).contains '-' then q.1.dropLast else q.1) = s.toList ∧ q.2 = rest := by
  intro q
  rw [contains_literalHints]
  have hend : scalarEnd s = if s.toList.getLast?.any isBreak then [] else ['\n'] := by
    rw [scalarEnd, decide_eq_true hstyle, Bool.true_and]
  cases hbreak : s.toList.getLast?.any isBreak with
  | true =>
    have hlast : s.toList.getLast?.elim true isBreak = true := by
      cases hs : s.toList.getLast? <;> simp_all
    have hread := readLiteral_literalBody hrest s.toList true hlast
    rw [if_pos rfl] at hread
    have hq : q = (s.toList, rest) := by
      rw [← hread]
      simp only [q, hend, hbreak, if_true, List.append_nil]
    rw [hq]
    exact ⟨rfl, rfl⟩
  | false =>
    have hlast : (s.toList ++ ['\n']).getLast?.elim true isBreak = true := by
      rw [List.getLast?_concat]
      rfl
    have hread := readLiteral_literalBody hrest (s.toList ++ ['\n']) true hlast
    rw [if_pos rfl] at hread
    have hq : q = (s.toList ++ ['\n'], rest) := by
      rw [← hread, ← literalBody_append_newline]
      simp only [q, hend, hbreak, Bool.false_eq_true, if_false]
    rw [hq]
    exact ⟨List.dropLast_concat, rfl⟩

/-! ## Scalars -/

section Heads

variable {indent : Nat} {r : List Char}

theorem readScalar_double : readScalar indent ('"' :: r) = (readDouble (r.length + 1) r).bind endLine := rfl

theorem readScalar_single : readScalar indent ('\x27' :: r) = (readSingle indent 0 r).bind endLine := rfl

theorem readScalar_bar {hints : List Char} (h : '\n' ∉ hints) :
    readScalar indent ('|' :: (hints ++ '\n' :: r))
      = some (String.ofList (if hints.contains '-' then (readLiteral indent indent r).1.dropLast
          else (readLiteral indent indent r).1), (readLiteral indent indent r).2) := by
  have hspan := span_newline h r
  rw [List.span_eq_takeWhile_dropWhile, Prod.mk.injEq] at hspan
  rw [readScalar, if_neg (by decide), if_neg (by decide), if_pos rfl]
  simp only [hspan.1, hspan.2, List.tail_cons]

theorem readScalar_plain {cs : List Char} (hne : cs ≠ []) (hbreak : '\n' ∉ cs) (hplain : allowsPlain cs = true) :
    readScalar indent (cs ++ '\n' :: r) = some (String.ofList cs, r) := by
  cases cs with
  | nil => exact absurd rfl hne
  | cons c cs =>
    obtain ⟨hdouble, hsingle, hbar⟩ := head_of_allowsPlain hplain
    rw [List.cons_append, readScalar, if_neg hdouble, if_neg hsingle, if_neg hbar, ← List.cons_append,
      span_newline hbreak, endLine]

end Heads

/-- **A scalar reads back as its text**, in whichever style it was written. -/
theorem readScalar_scalar {indent : Nat} {rest : List Char} (hrest : Outdented indent rest) (s : String) :
    readScalar indent (scalar indent s ++ scalarEnd s ++ rest) = some (s, rest) := by
  cases hstyle : styleOf s with
  | plain =>
    obtain ⟨hbreak, hother, hplain⟩ := styleOf_plain hstyle
    have hne : s.toList ≠ [] := by
      intro hs
      obtain rfl : s = "" := String.toList_eq_nil_iff.1 hs
      cases hother
    have hread : readScalar indent (s.toList ++ '\n' :: rest) = some (s, rest) := by
      rw [readScalar_plain hne hbreak hplain, String.ofList_toList]
    simpa [scalar, hstyle, scalarEnd_of_ne_literal] using hread
  | single =>
    have hclosed : ('\n' :: rest).head? ≠ some '\x27' := by simp
    have hread := readSingle_singleBody indent hclosed s.toList false
    rw [if_neg Bool.false_ne_true] at hread
    simp [scalar, hstyle, scalarEnd_of_ne_literal, readScalar_single, hread, endLine]
  | double =>
    have hfuel : s.toList.length < (s.toList.flatMap doubleEscape ++ '"' :: '\n' :: rest).length + 1 := by
      have := length_le_length_flatMap_doubleEscape s.toList
      rw [List.length_append]
      omega
    have hread := readDouble_flatMap ('\n' :: rest) s.toList _ hfuel
    have hend : scalarEnd s = ['\n'] := scalarEnd_of_ne_literal (by rw [hstyle]; decide)
    simp only [scalar, hstyle, hend, List.append_assoc, List.cons_append, List.nil_append]
    rw [readScalar_double, hread, Option.bind_some, endLine, String.ofList_toList]
  | literal =>
    obtain ⟨htext, hafter⟩ := readLiteral_literal hrest hstyle
    simp only [scalar, hstyle, List.append_assoc, List.cons_append, List.nil_append] at htext hafter ⊢
    rw [readScalar_bar (newline_not_mem_literalHints s.toList), htext, hafter, String.ofList_toList]

end Yaml
end Plantilla
