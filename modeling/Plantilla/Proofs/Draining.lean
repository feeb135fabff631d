import Plantilla.Proofs.Acceptance
import Plantilla.Proofs.Quieting
/-!
# Draining — every item is accounted for

A run takes its items to the end, also behind a halt, and nothing of them is lost on the way.  Every token is counted
(`tokens_recognize`), every illegal character is counted and told, and the grammatical errors counted are those told
(`lexicalErrors_recognize`, `grammaticalErrors_recognize`).  What is told is about some of the items, each at most once
and in their order, and behind those perhaps the end (`map_item?_diagnose`).  A sink that keeps the diagnostics gets
them behind what it held (`recognizeInto_drains`).
-/
namespace Plantilla
namespace Matcher

/-! ## The tokens -/

/-- **A run counts its tokens**, those behind a halt too. -/
theorem tokens_run (g : Grammar) (r : Recovery) : ∀ (items : List Item) (m : Matcher),
    (m.run g r items).tokens = m.tokens + (Item.tokens items).length
  | [], _ => rfl
  | .illegal c span :: items, m => tokens_run g r items (m.next g r (.illegal c span))
  | .token t :: items, m => by
    have hrun : m.run g r (.token t :: items) = (m.next g r (.token t)).run g r items := rfl
    have hlen : (Item.tokens (.token t :: items)).length = (Item.tokens items).length + 1 := rfl
    rw [hrun, tokens_run g r items, tokens_next_token, hlen]
    omega

theorem tokens_finish (m : Matcher) : m.finish.tokens = m.tokens := by
  unfold finish
  cases m.halted with
  | true => rfl
  | false => cases m.cursor.completed? <;> rfl

end Matcher

/-! ## The counts of a run -/

section Counts

variable (g : Grammar) (r : Recovery) (items : List Item)

theorem tokens_recognize : (recognize g r items).tokens = (Item.tokens items).length := by
  rw [recognize, Matcher.tokens_finish, Matcher.tokens_run]
  exact Nat.zero_add _

theorem filter_lexical_diagnose : (diagnose g r items).filter (fun d => !d.isGrammatical) = Item.illegals items :=
  Matcher.filter_lexical_reports g r items _

theorem grammaticalErrors_recognize :
    (recognize g r items).grammaticalErrors = ((diagnose g r items).filter Diagnostic.isGrammatical).length := by
  rw [← List.countP_eq_length_filter]
  exact count_recognize g r .grammatical items

theorem lexicalErrors_recognize : (recognize g r items).lexicalErrors = (Item.illegals items).length := by
  rw [← filter_lexical_diagnose g r items, ← List.countP_eq_length_filter]
  refine (count_recognize g r .lexical items).trans (List.countP_congr fun d _ => ?_)
  cases d <;> simp [Diagnostic.stage, Diagnostic.isGrammatical]

/-- **What a run tells is about some of its items, in their order, and then perhaps the end.** -/
theorem map_item?_diagnose : ∃ told : List Item, told.Sublist items ∧
    ((diagnose g r items).map Diagnostic.item? = told.map some ∨
      (diagnose g r items).map Diagnostic.item? = told.map some ++ [none]) := by
  obtain ⟨told, hsub, htold⟩ := Matcher.map_item?_told g r items (Matcher.start g)
  refine ⟨told, hsub, ?_⟩
  rcases diagnose_eq_told_or g r items with h | ⟨expected, h⟩
  · rw [h]
    exact .inl htold
  · rw [h, List.map_append, htold]
    exact .inr rfl

end Counts

/-- **Every item is accounted for**, also behind a halt.  Whatever the sink held stays, and behind it stands what the run
tells: every illegal character, in their order; and, but for the end, diagnostics of some of the items, in their order.
The counts are those of the tokens, of the illegal characters, and of the grammatical diagnostics told, of which a run
that halts tells at most one. -/
theorem recognizeInto_drains (g : Grammar) (r : Recovery) (items : List Item) :
    ∃ outcome D, (∀ kept : List Diagnostic, recognizeInto g r items kept = (outcome, kept ++ D)) ∧
      D.filter (fun d => !d.isGrammatical) = Item.illegals items ∧
      (∃ told : List Item, told.Sublist items ∧ (D.map Diagnostic.item? = told.map some ∨
        D.map Diagnostic.item? = told.map some ++ [none])) ∧
      outcome.tokens = (Item.tokens items).length ∧
      outcome.lexicalErrors = (Item.illegals items).length ∧
      outcome.grammaticalErrors = (D.filter Diagnostic.isGrammatical).length ∧
      (r.mode = .halt → outcome.grammaticalErrors ≤ 1) := by
  refine ⟨recognize g r items, diagnose g r items, fun kept => ?_, filter_lexical_diagnose g r items,
    map_item?_diagnose g r items, tokens_recognize g r items, lexicalErrors_recognize g r items,
    grammaticalErrors_recognize g r items, fun hmode => ?_⟩
  · rw [recognizeInto, Sink.reportAll_list]
  · have hhalt : r = ⟨.halt, r.quietShifts⟩ := by rw [← hmode]
    rw [grammaticalErrors_recognize, hhalt]
    exact length_grammatical_halt_le g r.quietShifts items

end Plantilla
