import Mathlib.Logic.Function.Iterate
import Plantilla.Proofs.Boundaries
import Plantilla.Proofs.Pattern
/-!
# Items — a scan, one character or one item at a time

The four ways in which a scanner can stand (at the end, before a gap character, a lexeme, or an illegal character) have
an equation each for `items`, and an induction over a text has these four cases (`scan_induction`).  The items are
what pulling gives, one pull after the other, and nothing after the last (`pull_iterate`).
-/
namespace Plantilla

open Text

theorem Found.span_token (f : Found) (o : Nat) : (f.token o).span = ⟨o, o + byteLength f.chars⟩ := by
  unfold Found.token
  cases f.shape with
  | number => simp only [Token.ofDigits]; split <;> rfl
  | mark kind => rfl
  | word => rfl
  | quoted => rfl

theorem Found.kind_token (f : Found) (o : Nat) : (f.token o).kind = f.shape.kind f.chars := by
  unfold Found.token
  cases f.shape with
  | number => simp only [Token.ofDigits]; split <;> rfl
  | mark kind => rfl
  | word => rfl
  | quoted => rfl

/-- But for numbers, a token carries its lexeme. -/
theorem Found.value_token {f : Found} (h : f.shape ≠ .number) (o : Nat) :
    (f.token o).value = .text (String.ofList f.chars) ∧ (f.token o).text = String.ofList f.chars := by
  unfold Found.token
  cases hs : f.shape with
  | number => exact absurd hs h
  | mark kind => exact ⟨rfl, rfl⟩
  | word => exact ⟨rfl, rfl⟩
  | quoted => exact ⟨rfl, rfl⟩

namespace Scanner

/-! ## Pulls -/

variable {o : Nat} {c : Char} {cs : List Char} {f : Found}

theorem skipGap_of_isGap (h : isGap c = true) : (⟨o, c :: cs⟩ : Scanner).skipGap = (⟨o + 1, cs⟩ : Scanner).skipGap := by
  unfold skipGap
  simp only [List.takeWhile_cons_of_pos h, List.dropWhile_cons_of_pos h, List.length_cons]
  rw [Nat.add_assoc, Nat.add_comm 1]

theorem skipGap_of_not_isGap (h : isGap c = false) : (⟨o, c :: cs⟩ : Scanner).skipGap = ⟨o, c :: cs⟩ := by
  have hc : ¬ isGap c = true := by rw [h]; exact Bool.false_ne_true
  unfold skipGap
  simp only [List.takeWhile_cons_of_neg hc, List.dropWhile_cons_of_neg hc, List.length_nil, Nat.add_zero]

theorem pull_nil : (⟨o, []⟩ : Scanner).pull = (none, ⟨o, []⟩) := rfl

theorem pull_of_isGap (h : isGap c = true) : (⟨o, c :: cs⟩ : Scanner).pull = (⟨o + 1, cs⟩ : Scanner).pull := by
  unfold pull
  rw [skipGap_of_isGap h]

theorem pull_of_lexeme (h : isGap c = false) (hf : lexeme? (c :: cs) = some f) :
    (⟨o, c :: cs⟩ : Scanner).pull = (some (.token (f.token o)), ⟨o + byteLength f.chars, f.rest⟩) := by
  unfold pull
  simp only [skipGap_of_not_isGap h, hf, Found.span_token]

theorem pull_of_unmatched (h : isGap c = false) (hf : lexeme? (c :: cs) = none) :
    (⟨o, c :: cs⟩ : Scanner).pull = (some (.illegal c ⟨o, o + c.utf8Size⟩), ⟨o + c.utf8Size, cs⟩) := by
  unfold pull
  simp only [skipGap_of_not_isGap h, hf]

/-! ## Items -/

theorem items_of_pull_none {s s' : Scanner} (h : s.pull = (none, s')) : s.items = [] := by
  rw [items, run]
  split
  · rfl
  · rename_i hp
    rw [h] at hp
    cases hp

theorem items_of_pull_some {s s' : Scanner} {item : Item} (h : s.pull = (some item, s')) :
    s.items = item :: s'.items := by
  rw [items, run]
  split
  · rename_i hp
    rw [h] at hp
    cases hp
  · rename_i hp
    rw [h] at hp
    cases hp
    rfl

theorem items_congr {s s' : Scanner} (h : s.pull = s'.pull) : s.items = s'.items := by
  rcases hp : s'.pull with ⟨_ | item, s''⟩
  · rw [items_of_pull_none hp, items_of_pull_none (h.trans hp)]
  · rw [items_of_pull_some hp, items_of_pull_some (h.trans hp)]

theorem items_nil : (⟨o, []⟩ : Scanner).items = [] := items_of_pull_none pull_nil

theorem items_of_isGap (h : isGap c = true) : (⟨o, c :: cs⟩ : Scanner).items = (⟨o + 1, cs⟩ : Scanner).items :=
  items_congr (pull_of_isGap h)

theorem items_of_lexeme (h : isGap c = false) (hf : lexeme? (c :: cs) = some f) :
    (⟨o, c :: cs⟩ : Scanner).items = .token (f.token o) :: (⟨o + byteLength f.chars, f.rest⟩ : Scanner).items :=
  items_of_pull_some (pull_of_lexeme h hf)

theorem items_of_unmatched (h : isGap c = false) (hf : lexeme? (c :: cs) = none) :
    (⟨o, c :: cs⟩ : Scanner).items
      = .illegal c ⟨o, o + c.utf8Size⟩ :: (⟨o + c.utf8Size, cs⟩ : Scanner).items :=
  items_of_pull_some (pull_of_unmatched h hf)

/-- **The induction of a scan**: at the end, or before a gap character, a lexeme, or a character that starts none. -/
theorem scan_induction {motive : List Char → Prop} (nil : motive [])
    (gap : ∀ c cs, isGap c = true → motive cs → motive (c :: cs))
    (lexeme : ∀ c cs f, isGap c = false → lexeme? (c :: cs) = some f → motive f.rest → motive (c :: cs))
    (illegal : ∀ c cs, isGap c = false → lexeme? (c :: cs) = none → motive cs → motive (c :: cs)) :
    ∀ cs, motive cs
  | [] => nil
  | c :: cs =>
    match hc : isGap c with
    | true => gap c cs hc (scan_induction nil gap lexeme illegal cs)
    | false =>
      match hf : lexeme? (c :: cs) with
      | some f => lexeme c cs f hc hf (scan_induction nil gap lexeme illegal f.rest)
      | none => illegal c cs hc hf (scan_induction nil gap lexeme illegal cs)
termination_by cs => cs.length
decreasing_by
  all_goals first
    | exact rest_length_lexeme? hf
    | exact Nat.lt_succ_self _

/-! ## A text and what follows it -/

/-- Holds of whatever a scan leaves of a text, if it holds of the text. -/
structure Carried (Ok : List Char → Prop) : Prop where
  gap : ∀ {c cs}, isGap c = true → Ok (c :: cs) → Ok cs
  lexeme : ∀ {cs f}, lexeme? cs = some f → Ok cs → Ok f.rest
  illegal : ∀ {c cs}, isGap c = false → lexeme? (c :: cs) = none → Ok (c :: cs) → Ok cs

/-- **A text is scanned apart from what follows it**, if wherever the scan stands no lexeme goes on into that. -/
theorem items_append {Ok : List Char → Prop} (hok : Carried Ok) {bs : List Char} (hfits : ∀ cs, Ok cs → Fits cs bs)
    (cs : List Char) : ∀ o : Nat, Ok cs →
      (⟨o, cs ++ bs⟩ : Scanner).items = (⟨o, cs⟩ : Scanner).items ++ (⟨o + byteLength cs, bs⟩ : Scanner).items := by
  induction cs using scan_induction with
  | nil =>
    intro o _
    rw [items_nil]
    rfl
  | gap c cs hc ih =>
    intro o h
    rw [List.cons_append, items_of_isGap hc, items_of_isGap hc, ih _ (hok.gap hc h), byteLength, utf8Size_of_isGap hc,
      Nat.add_assoc]
  | lexeme c cs f hc hf ih =>
    intro o h
    have hf' := (hfits _ h).lexeme?_of_some hf
    have hlen : byteLength (c :: cs) = byteLength f.chars + byteLength f.rest := by
      rw [(lexeme?_spec hf).1, byteLength_append]
    rw [List.cons_append] at hf' ⊢
    rw [items_of_lexeme hc hf', items_of_lexeme hc hf, ih _ (hok.lexeme hf h), hlen, ← Nat.add_assoc]
    rfl
  | illegal c cs hc hf ih =>
    intro o h
    have hf' := (hfits _ h).lexeme?_of_none hf
    rw [List.cons_append] at hf' ⊢
    rw [items_of_unmatched hc hf', items_of_unmatched hc hf, ih _ (hok.illegal hc hf h), byteLength, ← Nat.add_assoc]
    rfl

/-! ## Pulling again and again -/

/-- **The `n`-th pull gives the `n`-th item**, and none once the items are over. -/
theorem pull_iterate : ∀ (n : Nat) (s : Scanner), ((fun s => s.pull.2)^[n] s).pull.1 = s.items[n]?
  | 0, s => by
    rcases hp : s.pull with ⟨_ | item, s'⟩
    · rw [items_of_pull_none hp, Function.iterate_zero_apply, hp]
      rfl
    · rw [items_of_pull_some hp, Function.iterate_zero_apply, hp]
      rfl
  | n + 1, s => by
    rw [Function.iterate_succ_apply, pull_iterate n]
    rcases hp : s.pull with ⟨_ | item, s'⟩
    · have hnone := pull_pull_of_none (s := s) (by rw [hp])
      rw [hp] at hnone
      rw [items_of_pull_none hp, items_of_pull_none hnone]
      rfl
    · rw [items_of_pull_some hp]
      rfl

/-! ## Where the tokens stand -/

/-- A token is the one of a lexeme that stands in the text where its span says. -/
theorem exists_found_of_mem_items (cs : List Char) (o : Nat) (t : Token) (ht : .token t ∈ (⟨o, cs⟩ : Scanner).items) :
    ∃ pre f, cs = pre ++ f.chars ++ f.rest ∧ lexeme? (f.chars ++ f.rest) = some f ∧
      t = f.token (o + byteLength pre) := by
  induction cs using scan_induction generalizing o with
  | nil =>
    rw [items_nil] at ht
    cases ht
  | gap c cs hc ih =>
    rw [items_of_isGap hc] at ht
    obtain ⟨pre, f, rfl, hf, rfl⟩ := ih _ ht
    refine ⟨c :: pre, f, rfl, hf, ?_⟩
    rw [byteLength, utf8Size_of_isGap hc, Nat.add_assoc]
  | lexeme c cs f hc hf ih =>
    have hsplit := (lexeme?_spec hf).1
    rw [items_of_lexeme hc hf] at ht
    rcases List.mem_cons.1 ht with ht | ht
    · cases ht
      exact ⟨[], f, hsplit, hsplit ▸ hf, rfl⟩
    · obtain ⟨pre, f', hrest, hf', rfl⟩ := ih _ ht
      refine ⟨f.chars ++ pre, f', ?_, hf', ?_⟩
      · rw [hsplit, hrest, List.append_assoc, List.append_assoc, List.append_assoc]
      · rw [byteLength_append, Nat.add_assoc]
  | illegal c cs hc hf ih =>
    rw [items_of_unmatched hc hf] at ht
    rcases List.mem_cons.1 ht with ht | ht
    · cases ht
    · obtain ⟨pre, f', rfl, hf', rfl⟩ := ih _ ht
      exact ⟨c :: pre, f', rfl, hf', by rw [byteLength, Nat.add_assoc]⟩

end Scanner
end Plantilla
