import Plantilla.Proofs.Accounting
/-!
# Sifting — a run without its illegal characters

To a matcher an illegal character is a count and a place where an item ends, and neither is looked at in a step.  So two
matchers that differ in these alone (`Matcher.marked`) stay so, one taking all items and the other the tokens among them
(`run_marked`).  They tell the same of the tokens, note the same in the log, and at the end they differ in the count, and in
where they tell the end (`illegals_pass_by`).
-/
namespace Plantilla

/-- The items without the illegal characters. -/
def Item.sifted (items : List Item) : List Item := items.filter fun item => item.token?.isSome

/-- The diagnostic, with an end told at `stop`. -/
def Diagnostic.endingAt (stop : Nat) : Diagnostic → Diagnostic
  | unexpectedEnd _ expected => unexpectedEnd stop expected
  | d => d

theorem Diagnostic.map_endingAt {ds : List Diagnostic} (h : ∀ offset expected, .unexpectedEnd offset expected ∉ ds)
    (stop : Nat) : ds.map (endingAt stop) = ds := by
  have hsame : ∀ d ∈ ds, endingAt stop d = d := by
    intro d hd
    cases d with
    | unexpectedEnd offset expected => exact absurd hd (h offset expected)
    | illegalCharacter c span => rfl
    | unexpectedToken t expected => rfl
  rw [List.map_congr_left hsame, List.map_id']

namespace Matcher

/-- The matcher, as if its last item had ended elsewhere and so many illegal characters had been among its items. -/
def marked (m : Matcher) (stop illegals : Nat) : Matcher := { m with stop := stop, lexicalErrors := illegals }

section Step

variable (g : Grammar) (r : Recovery) (m : Matcher) (stop n : Nat)

theorem afterRefusal_marked : afterRefusal g r (m.marked stop n) = (afterRefusal g r m).marked stop n := by
  unfold afterRefusal marked
  by_cases hq : m.quiet = 0 <;> cases hm : r.mode <;> simp [hq]

theorem next_marked (t : Token) :
    (m.marked stop n).next g r (.token t) = (m.next g r (.token t)).marked t.span.stop n := by
  cases m.fate t with
  | passed hh =>
    rw [next_of_halted g r hh, next_of_halted g r (m := m.marked stop n) hh]
    rfl
  | taken c hh hc =>
    rw [next_of_advance g r hh hc, next_of_advance g r (m := m.marked stop n) hh hc]
    rfl
  | refused hh hc =>
    rw [next_of_refusal g r hh hc, next_of_refusal g r (m := m.marked stop n) hh hc, ← afterRefusal_marked]
    rfl

theorem report_marked (t : Token) : (m.marked stop n).report (.token t) = m.report (.token t) := rfl

theorem note_marked (t : Token) : (m.marked stop n).note (.token t) = m.note (.token t) := rfl

theorem filter_grammatical_report (t : Token) :
    (m.report (.token t)).filter Diagnostic.isGrammatical = m.report (.token t) := by
  rcases report_token m t with h | h <;> rw [h] <;> rfl

theorem finalReport_marked :
    (m.marked stop n).finalReport = (m.finalReport.filter Diagnostic.isGrammatical).map (Diagnostic.endingAt stop) := by
  unfold finalReport marked
  cases m.halted with
  | true => rfl
  | false =>
    cases m.cursor.completed? with
    | some p => rfl
    | none => by_cases hq : m.quiet = 0 <;> simp [hq, Diagnostic.isGrammatical, Diagnostic.stage, Diagnostic.endingAt]

theorem finish_marked : (m.marked stop n).finish = { m.finish with lexicalErrors := n } := by
  unfold finish marked
  cases m.halted with
  | true => rfl
  | false => cases m.cursor.completed? <;> rfl

end Step

/-! ## Whole runs -/

/-- **Without the illegal characters a run comes to the same state**, but for their number and the end of the last item. -/
theorem run_marked (g : Grammar) (r : Recovery) (n : Nat) : ∀ (items : List Item) (m : Matcher) (stop : Nat),
    (m.marked stop n).run g r (Item.sifted items)
      = (m.run g r items).marked (((Item.sifted items).getLast?.map fun item => item.span.stop).getD stop) n
  | [], _, _ => rfl
  | .illegal c span :: items, m, stop => run_marked g r n items (m.next g r (.illegal c span)) stop
  | .token t :: items, m, stop => by
    have hsifted : Item.sifted (.token t :: items) = .token t :: Item.sifted items := rfl
    have hrun : ∀ (m : Matcher) (items : List Item),
      m.run g r (.token t :: items) = (m.next g r (.token t)).run g r items := fun _ _ => rfl
    rw [hsifted, hrun, hrun, next_marked, run_marked g r n items, Item.last_stop_cons]
    rfl

/-- It tells the same of the tokens, -/
theorem told_marked (g : Grammar) (r : Recovery) (n : Nat) : ∀ (items : List Item) (m : Matcher) (stop : Nat),
    (m.marked stop n).told g r (Item.sifted items) = (m.told g r items).filter Diagnostic.isGrammatical
  | [], _, _ => rfl
  | .illegal c span :: items, m, stop => told_marked g r n items (m.next g r (.illegal c span)) stop
  | .token t :: items, m, stop => by
    have hsifted : Item.sifted (.token t :: items) = .token t :: Item.sifted items := rfl
    rw [hsifted, told, told, List.filter_append, filter_grammatical_report, report_marked, next_marked,
      told_marked g r n items]

/-- and notes the same. -/
theorem notes_marked (g : Grammar) (r : Recovery) (n : Nat) : ∀ (items : List Item) (m : Matcher) (stop : Nat),
    (m.marked stop n).notes g r (fun _ => []) (Item.sifted items) = m.notes g r (fun _ => []) items
  | [], _, _ => rfl
  | .illegal c span :: items, m, stop => notes_marked g r n items (m.next g r (.illegal c span)) stop
  | .token t :: items, m, stop => by
    have hsifted : Item.sifted (.token t :: items) = .token t :: Item.sifted items := rfl
    rw [hsifted, notes, notes, note_marked, next_marked, notes_marked g r n items]

end Matcher

theorem diagnose_sifted (g : Grammar) (r : Recovery) (items : List Item) :
    diagnose g r (Item.sifted items) = ((diagnose g r items).filter Diagnostic.isGrammatical).map
      (Diagnostic.endingAt (((Item.sifted items).getLast?.map fun item => item.span.stop).getD 0)) := by
  have hstart : (Matcher.start g).marked 0 0 = Matcher.start g := rfl
  have hrun := Matcher.run_marked g r 0 items (Matcher.start g) 0
  have htold := Matcher.told_marked g r 0 items (Matcher.start g) 0
  have hends : ∀ offset expected, .unexpectedEnd offset expected
      ∉ ((Matcher.start g).told g r items).filter Diagnostic.isGrammatical := fun offset expected h =>
    Matcher.unexpectedEnd_not_mem_told g r _ items offset expected (List.mem_filter.1 h).1
  rw [hstart] at hrun htold
  rw [diagnose, diagnose, Matcher.reports_eq_told_append, Matcher.reports_eq_told_append, List.filter_append,
    List.map_append, Diagnostic.map_endingAt hends, htold, hrun, Matcher.finalReport_marked]

/-- **Illegal characters pass a matcher by.**  A run without them has the same outcome, but that it counts none; it tells
the same grammatical diagnostics, but that an end is told where the last token stops; it is in the same state behind the
items, with the same cursor, halted or not, and owing as many tokens; and the log of the matching is the same, so that
the same tokens were matched, refused and discarded. -/
theorem illegals_pass_by (g : Grammar) (r : Recovery) (items : List Item) :
    let stop := ((Item.sifted items).getLast?.map fun item => item.span.stop).getD 0
    recognize g r (Item.sifted items) = { recognize g r items with lexicalErrors := 0 } ∧
    diagnose g r (Item.sifted items)
      = ((diagnose g r items).filter Diagnostic.isGrammatical).map (Diagnostic.endingAt stop) ∧
    (Matcher.start g).run g r (Item.sifted items)
      = { (Matcher.start g).run g r items with stop := stop, lexicalErrors := 0 } ∧
    (Matcher.start g).notes g r (fun _ => []) (Item.sifted items) = (Matcher.start g).notes g r (fun _ => []) items := by
  have hrun := Matcher.run_marked g r 0 items (Matcher.start g) 0
  have hstart : (Matcher.start g).marked 0 0 = Matcher.start g := rfl
  rw [hstart] at hrun
  refine ⟨?_, diagnose_sifted g r items, hrun, Matcher.notes_marked g r 0 items (Matcher.start g) 0⟩
  rw [recognize, recognize, hrun, Matcher.finish_marked]

end Plantilla
