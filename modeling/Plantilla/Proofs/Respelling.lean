import Plantilla.Proofs.Acceptance
import Plantilla.Proofs.Likeness
import Plantilla.Proofs.Margins
import Plantilla.Proofs.Spelling
/-!
# Respelling — tokens written back

The texts of a source's tokens, written with a space between any two, scan to tokens that say the same, and to nothing
else (`scan_respell_like`).  If the source has no illegal character, a check cannot tell the two apart: it sees all the
items of either (`innerItems_of_tokens`), and a matcher looks at kinds only (`Checker.report_like`).
-/
namespace Plantilla

open Scanner

/-- The texts of the tokens of a source, with a space between any two. -/
def respell (source : String) : String := " ".intercalate ((tokenize source).map Token.text)

/-! ## Writing and scanning -/

theorem spaced_intercalate : ∀ words : List String, Spaced (words.map String.toList) (" ".intercalate words).toList
  | [] => .nil
  | [word] => by
    rw [String.intercalate_singleton]
    exact .one _
  | word :: word' :: words => by
    have hspace : " ".toList = [' '] := rfl
    rw [String.intercalate_cons_cons, String.toList_append, String.toList_append, List.append_assoc, hspace]
    exact .cons _ (List.cons_ne_nil _ _) (by simp [isGap_iff]) (spaced_intercalate (word' :: words))

theorem mem_tokenize_iff {source : String} {t : Token} : t ∈ tokenize source ↔ .token t ∈ scan source := by
  unfold tokenize Item.tokens
  rw [List.mem_filterMap]
  constructor
  · rintro ⟨item, hitem, ht⟩
    cases item with
    | token t' => cases ht; exact hitem
    | illegal c span => cases ht
  · exact fun h => ⟨_, h, rfl⟩

theorem spelled_of_mem_tokenize {source : String} {t : Token} (h : t ∈ tokenize source) : t.Spelled := by
  obtain ⟨pre, f, _, hf, rfl⟩ := exists_found_of_mem_items source.toList 0 t (mem_tokenize_iff.1 h)
  exact Found.spelled_token (lexeme?_spec hf).2.1 _

/-- **Each token that is written back scans to a token that says the same.** -/
theorem scan_respell_like (source : String) :
    List.Forall₂ (fun t item => ∃ t', item = .token t' ∧ t'.content = t.content) (tokenize source)
      (scan (respell source)) := by
  have hspelled : ∀ t ∈ tokenize source, t.Spelled := fun t => spelled_of_mem_tokenize
  have hmatches : ∀ w ∈ ((tokenize source).map Token.text).map String.toList, ∃ s : Shape, s.Matches w := by
    simp only [List.mem_map, forall_exists_index, and_imp, forall_apply_eq_imp_iff₂]
    intro t ht
    obtain ⟨s, hs, _⟩ := hspelled t ht
    exact ⟨s, hs⟩
  have hitems := items_of_spaced (spaced_intercalate ((tokenize source).map Token.text)) hmatches 0
  rw [List.map_map, List.forall₂_map_left_iff] at hitems
  refine ((List.forall₂_and_left _ _).2 ⟨hspelled, hitems⟩).imp ?_
  rintro t item ⟨⟨s, hs, hcontent⟩, f, o, hchars, hf, rfl⟩
  have hshape : f.shape = s := hf.shape_eq hs (List.prefix_refl _)
  refine ⟨_, rfl, ?_⟩
  rw [Found.content_token, hchars, hshape]
  exact hcontent

theorem tokens_of_forall₂ {ts : List Token} {items : List Item}
    (h : List.Forall₂ (fun t item => ∃ t', item = .token t' ∧ t'.content = t.content) ts items) :
    (∀ item ∈ items, ∃ t, item = .token t) ∧ (Item.tokens items).map Token.content = ts.map Token.content :=
  Item.map_tokens_of_forall₂ (List.forall₂_map_left_iff.2 h)

theorem content_respell (source : String) :
    (tokenize (respell source)).map Token.content = (tokenize source).map Token.content :=
  (tokens_of_forall₂ (scan_respell_like source)).2

theorem respell_respell (source : String) : respell (respell source) = respell source := by
  have htexts := congrArg (List.map fun content : Kind × Token.Value × String => content.2.2) (content_respell source)
  rw [List.map_map, List.map_map] at htexts
  exact congrArg " ".intercalate htexts

/-! ## Checking what is written back -/

/-- Two tokens that say the same. -/
def Item.SameToken (item item' : Item) : Prop :=
  ∃ t t', item = .token t ∧ item' = .token t' ∧ t.content = t'.content

theorem Item.SameToken.kind?_eq {item item' : Item} (h : SameToken item item') : item.kind? = item'.kind? := by
  obtain ⟨t, t', rfl, rfl, hcontent⟩ := h
  have hkind : t.kind = t'.kind := congrArg Prod.fst hcontent
  rw [kind?, kind?, hkind]

theorem Diagnostic.Like.message_eq {d d' : Diagnostic} (h : Like Item.SameToken d d') : d.message = d'.message := by
  cases h with
  | illegalCharacter hR =>
    obtain ⟨t, _, ht, _⟩ := hR
    cases ht
  | @unexpectedToken t t' _ hR =>
    obtain ⟨_, _, ht, ht', hcontent⟩ := hR
    cases ht
    cases ht'
    have htext : t.text = t'.text := congrArg (fun content : Kind × Token.Value × String => content.2.2) hcontent
    show "Error de sintaxis en token '" ++ t.text ++ "'" = "Error de sintaxis en token '" ++ t'.text ++ "'"
    rw [htext]
  | unexpectedEnd => rfl

theorem Item.eq_map_token : ∀ items : List Item, (∀ item ∈ items, ∃ t, item = .token t) →
    items = (tokens items).map Item.token
  | [], _ => rfl
  | .token t :: items, h => by
    have ih := eq_map_token items fun item hitem => h item (List.mem_cons_of_mem _ hitem)
    exact congrArg (Item.token t :: ·) ih
  | .illegal c span :: items, h => by
    obtain ⟨t, ht⟩ := h _ List.mem_cons_self
    cases ht

section Check

variable {source source' : String} (h : ∀ item ∈ scan source, ∃ t, item = .token t)
  (h' : ∀ item ∈ scan source', ∃ t, item = .token t)
  (hcontent : (tokenize source).map Token.content = (tokenize source').map Token.content)
include h h' hcontent

theorem forall₂_sameToken : List.Forall₂ Item.SameToken (scan source) (scan source') := by
  rw [Item.eq_map_token _ h, Item.eq_map_token _ h', List.forall₂_map_left_iff, List.forall₂_map_right_iff]
  exact (forall₂_eq_iff.2 hcontent).imp fun t t' ht => ⟨t, t', rfl, rfl, ht⟩

/-- **A check tells apart no two sources of tokens that say the same.** -/
theorem Checker.report_like (c : Checker) :
    (c.report source').verdict = (c.report source).verdict ∧
    (c.report source').template = (c.report source).template ∧
    (c.report source').messages = (c.report source).messages := by
  have hsame := forall₂_sameToken h h' hcontent
  have hkinds : (scan source).map Item.kind? = (scan source').map Item.kind? :=
    forall₂_eq_iff.1 (hsame.imp fun _ _ => Item.SameToken.kind?_eq)
  have hrecognize := recognize_like c.grammar c.recovery hkinds
  have hlike := diagnose_like (fun _ _ => Item.SameToken.kind?_eq) c.grammar c.recovery hsame
  have hmessages : (diagnose c.grammar c.recovery (scan source)).map Diagnostic.message
      = (diagnose c.grammar c.recovery (scan source')).map Diagnostic.message :=
    forall₂_eq_iff.1 (hlike.imp fun _ _ => Diagnostic.Like.message_eq)
  have hnil : scan source = [] ↔ scan source' = [] := by
    rw [← List.length_eq_zero_iff, hsame.length_eq, List.length_eq_zero_iff]
  have hitems := innerItems_of_tokens h
  have hitems' := innerItems_of_tokens h'
  by_cases hscan : scan source = []
  · rw [if_pos hscan] at hitems
    rw [if_pos (hnil.1 hscan)] at hitems'
    rw [c.report_of_none hitems, c.report_of_none hitems']
    exact ⟨rfl, rfl, rfl⟩
  · rw [if_neg hscan] at hitems
    rw [if_neg fun hscan' => hscan (hnil.2 hscan')] at hitems'
    rw [c.report_eq_conclude hitems, c.report_eq_conclude hitems', hrecognize]
    exact ⟨rfl, rfl, hmessages.symm⟩

end Check

/-- **Writing tokens back changes nothing that they say.**  The texts of a source's tokens, with a space between any two,
scan to tokens of the same kinds, values and texts and to no illegal character, so writing them back again is no change.
If the source has no illegal character, a check gives the same verdict, template and messages for both. -/
theorem respell_preserves_content (source : String) :
    (∀ item ∈ scan (respell source), ∃ t, item = .token t) ∧
    (tokenize (respell source)).map Token.content = (tokenize source).map Token.content ∧
    respell (respell source) = respell source ∧
    ((∀ item ∈ scan source, ∃ t, item = .token t) → ∀ c : Checker,
      (c.report (respell source)).verdict = (c.report source).verdict ∧
      (c.report (respell source)).template = (c.report source).template ∧
      (c.report (respell source)).messages = (c.report source).messages) := by
  have htokens := (tokens_of_forall₂ (scan_respell_like source)).1
  have hcontent := content_respell source
  exact ⟨htokens, hcontent, respell_respell source, fun h c => c.report_like h htokens hcontent.symm⟩

/-- Zeros in front, a string with a newline, and no gaps. -/
theorem respell_preserves_content_unspaced :
    (∀ item ∈ scan "007(\"a\nb\"", ∃ t, item = .token t) ∧ respell "007(\"a\nb\"" = "7 ( \"a\nb\"" ∧
    (({} : Checker).report (respell "007(\"a\nb\"")).messages = (({} : Checker).report "007(\"a\nb\"").messages := by
  have htoken : ∀ item ∈ scan "007(\"a\nb\"", item.token?.isSome = true := by decide +kernel
  have hscan : ∀ item ∈ scan "007(\"a\nb\"", ∃ t, item = .token t := by
    intro item hitem
    cases item with
    | token t => exact ⟨t, rfl⟩
    | illegal c span => cases htoken _ hitem
  exact ⟨hscan, by decide +kernel, ((respell_preserves_content _).2.2.2 hscan {}).2.2⟩

end Plantilla
