import Plantilla.Proofs.Spelling
import Plantilla.Proofs.Surroundings
/-!
# Writing — a text written from a template

What may be written for a kind is just what a scan gives the kind (`Kind.Spells`, `kind_token_of_spells`).  So a template
written out, with gaps between the lexemes and blanks around them, scans to its own kinds (`kinds_of_written`), and a
check accepts it (`report_written`): other templates may begin with the same kinds or go on behind them.
-/
namespace Plantilla

open Text Scanner

theorem kind_token_of_spells {kind : Kind} {f : Found} (h : kind.Spells f.chars) (hmatch : f.shape.Matches f.chars)
    (o : Nat) : (f.token o).kind = kind := by
  obtain ⟨s, hs, hkind⟩ := Kind.spells_iff.1 h
  have hshape : f.shape = s := hmatch.shape_eq hs (List.prefix_refl _)
  rw [Found.kind_token, hshape, hkind]

/-- **Lexemes with gaps between them scan to the kinds that they are written for.** -/
theorem kinds_of_written {kinds : List Kind} {ws : List (List Char)} {text : List Char}
    (hws : List.Forall₂ Kind.Spells kinds ws) (htext : Spaced ws text) (o : Nat) :
    (∀ item ∈ (⟨o, text⟩ : Scanner).items, ∃ t, item = .token t) ∧
      Item.kinds (⟨o, text⟩ : Scanner).items = kinds := by
  have hshaped : List.Forall₂ (fun w kind => (∃ s : Shape, s.Matches w) ∧ kind.Spells w) ws kinds := by
    refine List.Forall₂.flip (hws.imp fun kind w h => ⟨?_, h⟩)
    obtain ⟨s, hs, _⟩ := Kind.spells_iff.1 h
    exact ⟨s, hs⟩
  have hmatches := ((List.forall₂_and_left _ _).1 hshaped).1
  apply Item.map_tokens_of_forall₂
  refine forall₂_trans ?_ hws (items_of_spaced htext hmatches o)
  rintro kind w item hspells ⟨f, o', rfl, hmatch, rfl⟩
  exact ⟨_, rfl, kind_token_of_spells hspells hmatch o'⟩

/-- **A text written from a template is accepted as that template**, in either mode: whatever is written for its kinds,
whatever gaps stand between the lexemes, and whatever blanks around them. -/
theorem report_written (c : Checker) {p : Production} (hp : p ∈ c.grammar.productions) {ws : List (List Char)}
    (hws : List.Forall₂ Kind.Spells p.kinds ws) {text : List Char} (htext : Spaced ws text) {front back : String}
    (hfront : Blank front.toList) (hback : Blank back.toList) :
    c.report (front ++ String.ofList text ++ back) = ⟨.accepted, some p.name, []⟩ := by
  have hwritten := kinds_of_written hws htext 0
  rw [← Scanner.ofChars, ← String.toList_ofList (l := text), ← scan] at hwritten
  obtain ⟨htokens, hkinds⟩ := hwritten
  have hne : scan (String.ofList text) ≠ [] := by
    intro hnil
    rw [hnil] at hkinds
    exact Grammar.kinds_ne_nil hp hkinds.symm
  have hinner := innerItems_surround hfront hback (String.ofList text)
  rw [innerItems_of_tokens htokens, if_neg hne, Option.map_some] at hinner
  refine c.report_of_template hinner ((Item.forall_token_map_shift _ _).2 htokens) hp ?_
  rw [Item.kinds_map_shift, hkinds]

/-- A declaration on three lines, of a word that begins like a reserved one. -/
theorem report_written_declaration :
    Blank "\u2028".toList ∧ Blank "\r\n".toList ∧
    (⟨Grammar.stock, { mode := .halt }⟩ : Checker).report ("\u2028" ++ "var\n\tint sin\n;" ++ "\r\n")
      = ⟨.accepted, some "declaration", []⟩ := by
  have hfront : Blank "\u2028".toList := by decide
  have hback : Blank "\r\n".toList := by decide
  have hmem : ⟨"declaration", [.varWord, .intWord, .ident, .semi]⟩ ∈ Grammar.stock.productions := by decide
  have hws : List.Forall₂ Kind.Spells [.varWord, .intWord, .ident, .semi]
      ["var".toList, "int".toList, "sin".toList, [';']] :=
    .cons (.reserved (by decide)) (.cons (.reserved (by decide)) (.cons (.ident (by decide)
      (List.all_eq_true.1 (by decide)) (by decide))
      (.cons (.mark (by decide)) .nil)))
  have htext : Spaced ["var".toList, "int".toList, "sin".toList, [';']]
      ("var".toList ++ (['\n', '\t'] ++ ("int".toList ++ ([' '] ++ ("sin".toList ++ (['\n'] ++ [';'])))))) :=
    .cons _ (by decide) (by simp [isGap_iff]) (.cons _ (by decide) (by simp [isGap_iff]) (.cons _ (by decide)
      (by simp [isGap_iff]) (.one _)))
  exact ⟨hfront, hback, report_written ⟨Grammar.stock, { mode := .halt }⟩ hmem hws htext hfront hback⟩

end Plantilla
