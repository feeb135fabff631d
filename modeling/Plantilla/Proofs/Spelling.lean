import Mathlib.Data.List.DropRight
import Mathlib.Data.List.Forall2
import Plantilla.Proofs.Munch
/-!
# Spelling — lexemes written one behind the other

A gap ends every lexeme: no match goes on across a space, a tab or a newline (`lexeme?_of_matches`).  So words of the
language written with gaps between them scan to one token each (`items_of_spaced`).

What a token says depends on its lexeme and not on where it stands (`Found.content_token`), and the text of a token is
a lexeme that says the same (`Found.spelled_token`).  For numbers that is decimal arithmetic: a number in 64 bits is
written without zeros in front and reads back as itself, and a larger one keeps its digits and stays larger.
-/
namespace Plantilla

open Scanner

/-! ## Digits -/

namespace Numeral

theorem ofDigits_eq (ds : List Char) : ofDigits ds = Nat.ofDigitChars 10 ds 0 := Nat.ofDigitChars_eq_foldl.symm

theorem toList_text (n : Nat) : (text n).toList = Nat.toDigits 10 n := Nat.toList_repr

theorem ofDigits_text (n : Nat) : ofDigits (text n).toList = n := by
  rw [ofDigits_eq, toList_text, Nat.ofDigitChars_ten_toDigits]

theorem text_injective : Function.Injective text := fun n m h => by
  rw [← ofDigits_text n, h, ofDigits_text]

theorem isDigit_of_mem_text {n : Nat} {c : Char} (h : c ∈ (text n).toList) : isDigit c = true := by
  rw [toList_text] at h
  have hdigit := Nat.isDigit_of_mem_toDigits (by decide) (by decide) h
  simpa [Char.isDigit, isDigit, Char.le_def] using hdigit

theorem text_ne_nil (n : Nat) : (text n).toList ≠ [] := by
  rw [toList_text]
  exact Nat.toDigits_ne_nil

theorem ofDigits_dropWhile_zero : ∀ ds : List Char, ofDigits (ds.dropWhile (· == '0')) = ofDigits ds
  | [] => rfl
  | d :: ds => by
    by_cases hd : d = '0'
    · subst hd
      rw [List.dropWhile_cons_of_pos rfl, ofDigits_dropWhile_zero ds]
      rfl
    · rw [List.dropWhile_cons_of_neg (by simpa using hd)]

end Numeral

/-! ## What a token says -/

/-- What a token says, wherever it stands. -/
def Token.content (t : Token) : Kind × Token.Value × String := (t.kind, t.value, t.text)

/-- What the token of a lexeme says. -/
def Shape.content (s : Shape) (w : List Char) : Kind × Token.Value × String := ((⟨s, w, []⟩ : Found).token 0).content

theorem Shape.content_of_ne_number {s : Shape} (h : s ≠ .number) (w : List Char) :
    s.content w = (s.kind w, .text (String.ofList w), String.ofList w) := by
  cases s with
  | number => exact absurd rfl h
  | mark kind => rfl
  | word => rfl
  | quoted => rfl

theorem Token.content_ofDigits (ds : List Char) (span : Span) : (Token.ofDigits ds span).content =
    if Numeral.ofDigits ds ≤ Numeral.maxWord then
      (.number, .integer (Numeral.ofDigits ds), Numeral.text (Numeral.ofDigits ds))
    else (.number, .integer Numeral.maxWord, String.ofList (ds.dropWhile (· == '0'))) := by
  unfold Token.ofDigits
  split <;> rfl

theorem Token.value_ofDigits (ds : List Char) (span : Span) :
    (ofDigits ds span).value = .integer (min (Numeral.ofDigits ds) Numeral.maxWord) := by
  unfold ofDigits
  split
  · rename_i hword
    rw [Nat.min_eq_left hword]
    rfl
  · rename_i hword
    rw [Nat.min_eq_right (Nat.le_of_not_le hword)]

theorem Found.content_token (f : Found) (o : Nat) : (f.token o).content = f.shape.content f.chars := by
  obtain ⟨s, w, rest⟩ := f
  by_cases hs : s = .number
  · subst hs
    show (Token.ofDigits _ _).content = (Token.ofDigits _ _).content
    rw [Token.content_ofDigits, Token.content_ofDigits]
  · obtain ⟨hvalue, htext⟩ := Found.value_token (f := ⟨s, w, rest⟩) hs o
    rw [Shape.content_of_ne_number hs, Token.content, hvalue, htext, Found.kind_token]

/-- The text of the token is a lexeme, and says what the token says. -/
def Token.Spelled (t : Token) : Prop := ∃ s : Shape, s.Matches t.text.toList ∧ s.content t.text.toList = t.content

theorem Token.spelled_ofDigits {ds : List Char} (h : ∀ d ∈ ds, Numeral.isDigit d = true) (span : Span) :
    (Token.ofDigits ds span).Spelled := by
  have hcontent := Token.content_ofDigits ds span
  have hshape : ∀ w, Shape.number.content w = (Token.ofDigits w ⟨0, 0 + Text.byteLength w⟩).content := fun _ => rfl
  refine ⟨.number, ?_⟩
  rw [hshape, hcontent, Token.content_ofDigits]
  by_cases hword : Numeral.ofDigits ds ≤ Numeral.maxWord
  · rw [if_pos hword] at hcontent ⊢
    have htext : (Token.ofDigits ds span).text = Numeral.text (Numeral.ofDigits ds) :=
      congrArg (fun content => content.2.2) hcontent
    rw [htext, Numeral.ofDigits_text, if_pos hword]
    exact ⟨⟨Numeral.text_ne_nil _, fun d hd => Numeral.isDigit_of_mem_text hd⟩, rfl⟩
  · rw [if_neg hword] at hcontent ⊢
    have htext : (Token.ofDigits ds span).text = String.ofList (ds.dropWhile (· == '0')) :=
      congrArg (fun content => content.2.2) hcontent
    have hne : ds.dropWhile (· == '0') ≠ [] := by
      intro hnil
      rw [← Numeral.ofDigits_dropWhile_zero, hnil] at hword
      exact hword (Nat.zero_le _)
    rw [htext, String.toList_ofList, Numeral.ofDigits_dropWhile_zero, if_neg hword, List.dropWhile_idempotent]
    exact ⟨⟨hne, fun d hd => h d ((List.dropWhile_sublist _).subset hd)⟩, rfl⟩

theorem Found.spelled_token {f : Found} (h : f.shape.Matches f.chars) (o : Nat) : (f.token o).Spelled := by
  by_cases hs : f.shape = .number
  · have hdigits : ∀ d ∈ f.chars, Numeral.isDigit d = true := by
      rw [hs] at h
      exact h.2
    have htoken : f.token o = Token.ofDigits f.chars ⟨o, o + Text.byteLength f.chars⟩ := by
      unfold Found.token
      rw [hs]
    rw [htoken]
    exact Token.spelled_ofDigits hdigits _
  · obtain ⟨_, htext⟩ := Found.value_token hs o
    refine ⟨f.shape, ?_⟩
    rw [Found.content_token, htext, String.toList_ofList]
    exact ⟨h, rfl⟩

/-! ## A gap ends a lexeme -/

theorem Shape.Matches.not_matches_gap {s : Shape} {w tail : List Char} {c : Char} (h : s.Matches w)
    (hc : isGap c = true) : ¬ s.Matches (w ++ c :: tail) := by
  intro hlong
  cases s with
  | mark kind =>
    obtain ⟨d, _, rfl⟩ := h
    obtain ⟨e, _, he⟩ := hlong
    simp at he
  | number =>
    have hdigit := hlong.2 c (by simp)
    rcases isGap_iff.1 hc with rfl | rfl | rfl <;> revert hdigit <;> decide
  | word =>
    obtain ⟨d, ds, rfl, _, _⟩ := h
    obtain ⟨e, es, hw, _, hes⟩ := hlong
    have hpart := hes c (by rw [← (List.cons.inj hw).2]; simp)
    rcases isGap_iff.1 hc with rfl | rfl | rfl <;> revert hpart <;> decide
  | quoted =>
    obtain ⟨body, rfl, _⟩ := h
    obtain ⟨body', hw, hbody'⟩ := hlong
    -- the quote that closes `w` would stand inside the longer match
    have htail : body ++ ('"' :: c :: tail) = body' ++ ['"'] := by simpa using hw
    have hlen := congrArg List.length htail
    rcases List.append_eq_append_iff.1 htail with ⟨es, rfl, hes⟩ | ⟨es, rfl, hes⟩
    · cases es with
      | nil => simp at hes
      | cons e es =>
        obtain ⟨rfl, _⟩ := List.cons.inj hes
        exact hbody' (by simp)
    · simp at hlen
      omega

theorem Shape.Matches.shape_eq {s s' : Shape} {w v : List Char} (h : s.Matches w) (h' : s'.Matches v) (hwv : w <+: v) :
    s = s' := by
  obtain ⟨c, cs, rfl, _⟩ := h'.exists_cons
  exact Option.some.inj ((h.headShape?_eq hwv).symm.trans (h'.headShape?_eq (List.prefix_refl _)))

theorem Shape.Matches.longest_of_gap {s : Shape} {w rest : List Char} (h : s.Matches w)
    (hrest : ∀ c ∈ rest.head?, isGap c = true) : Longest w (w ++ rest) := by
  intro s' v hv hprefix
  apply Classical.byContradiction
  intro hlen
  obtain ⟨t, ht⟩ := hprefix
  rcases List.append_eq_append_iff.1 ht with ⟨es, rfl, _⟩ | ⟨es, rfl, hes⟩
  · simp at hlen
  · cases es with
    | nil => simp at hlen
    | cons c es =>
      obtain rfl := h.shape_eq hv (List.prefix_append w _)
      exact h.not_matches_gap (hrest c (by rw [hes]; rfl)) hv

theorem lexeme?_of_matches {s : Shape} {w rest : List Char} (h : s.Matches w)
    (hrest : ∀ c ∈ rest.head?, isGap c = true) : lexeme? (w ++ rest) = some ⟨s, w, rest⟩ :=
  lexeme?_eq_some_iff.2 ⟨rfl, h, h.longest_of_gap hrest⟩

theorem Scanner.items_of_matches {s : Shape} {w rest : List Char} (h : s.Matches w)
    (hrest : ∀ c ∈ rest.head?, isGap c = true) (o : Nat) : (⟨o, w ++ rest⟩ : Scanner).items
      = .token ((⟨s, w, rest⟩ : Found).token o) :: (⟨o + Text.byteLength w, rest⟩ : Scanner).items := by
  have hlexeme := lexeme?_of_matches h hrest
  obtain ⟨c, cs, rfl, _⟩ := h.exists_cons
  rw [List.cons_append] at hlexeme ⊢
  exact items_of_lexeme h.not_isGap hlexeme

/-! ## Words with gaps between them -/

/-- The words in order, with a gap between any two. -/
inductive Spaced : List (List Char) → List Char → Prop
  | nil : Spaced [] []
  | one (w : List Char) : Spaced [w] w
  | cons (w : List Char) {gap v cs : List Char} {ws : List (List Char)} : gap ≠ [] → (∀ c ∈ gap, isGap c = true) →
      Spaced (v :: ws) cs → Spaced (w :: v :: ws) (w ++ (gap ++ cs))

theorem Scanner.items_gap_append (cs : List Char) : ∀ (gap : List Char) (o : Nat), (∀ c ∈ gap, isGap c = true) →
    (⟨o, gap ++ cs⟩ : Scanner).items = (⟨o + gap.length, cs⟩ : Scanner).items
  | [], _, _ => rfl
  | c :: gap, o, h => by
    rw [List.cons_append, items_of_isGap (h c List.mem_cons_self),
      items_gap_append cs gap _ fun d hd => h d (List.mem_cons_of_mem c hd), List.length_cons, Nat.add_assoc,
      Nat.add_comm 1]

/-- **Words with gaps between them scan to one token each.** -/
theorem items_of_spaced {ws : List (List Char)} {cs : List Char} (h : Spaced ws cs)
    (hws : ∀ w ∈ ws, ∃ s : Shape, s.Matches w) : ∀ o, List.Forall₂
      (fun w item => ∃ f : Found, ∃ o, f.chars = w ∧ f.shape.Matches w ∧ item = .token (f.token o)) ws
      (⟨o, cs⟩ : Scanner).items := by
  induction h with
  | nil =>
    intro o
    rw [items_nil]
    exact .nil
  | one w =>
    intro o
    obtain ⟨s, hs⟩ := hws w List.mem_cons_self
    have hend : ∀ c ∈ ([] : List Char).head?, isGap c = true := fun c hc => by cases hc
    have hitems := items_of_matches hs hend o
    rw [List.append_nil, items_nil] at hitems
    rw [hitems]
    exact .cons ⟨_, o, rfl, hs, rfl⟩ .nil
  | @cons w gap v cs ws hne hgap _ ih =>
    intro o
    obtain ⟨s, hs⟩ := hws w List.mem_cons_self
    have hhead : ∀ c ∈ (gap ++ cs).head?, isGap c = true := by
      obtain ⟨c, gap', rfl⟩ := List.exists_cons_of_ne_nil hne
      rintro d hd
      cases hd
      exact hgap c List.mem_cons_self
    rw [items_of_matches hs hhead, items_gap_append cs gap _ hgap]
    exact .cons ⟨_, o, rfl, hs, rfl⟩ (ih (fun v hv => hws v (List.mem_cons_of_mem w hv)) _)

theorem Item.map_tokens_of_forall₂ {β : Type} {f : Token → β} {bs : List β} {items : List Item}
    (h : List.Forall₂ (fun b item => ∃ t, item = .token t ∧ f t = b) bs items) :
    (∀ item ∈ items, ∃ t, item = .token t) ∧ (tokens items).map f = bs := by
  induction h with
  | nil => exact ⟨by simp, rfl⟩
  | cons hhead _ ih =>
    obtain ⟨t, rfl, rfl⟩ := hhead
    refine ⟨?_, congrArg (f t :: ·) ih.2⟩
    rintro item (_ | ⟨_, hitem⟩)
    · exact ⟨t, rfl⟩
    · exact ih.1 item hitem

end Plantilla
