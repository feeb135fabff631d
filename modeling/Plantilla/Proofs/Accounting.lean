import Plantilla.Matching
/-!
# Accounting — what a run counts is what it told

The two error counters of a matcher and its diagnostics are separate functions of one step.  Here they are tied
together, for each stage at once: a step raises a counter by the diagnostics it tells of that stage (`count_next`),
so a run does (`count_recognize`).  And a matcher is silent, owing tokens or halted, only after it has told a
grammatical diagnostic (`Candid`), so a run is accepted exactly when it told nothing (`accepted_recognize_iff`).

But for the one of the end, a run's diagnostics are about its items, each at most once and in their order
(`map_item?_told`), and they name every illegal character (`filter_lexical_reports`).  The one of the end comes last, if
at all (`diagnose_eq_told_or`).

What a step does to a token is said once, for its three fates (`Matcher.Fate`), and the facts about a step split there.
-/
namespace Plantilla

/-- The number of diagnostics of a stage. -/
def Diagnostic.tally (stage : Diagnostic.Stage) (ds : List Diagnostic) : Nat := ds.countP (·.stage = stage)

theorem Diagnostic.tally_append (stage : Diagnostic.Stage) (ds es : List Diagnostic) :
    tally stage (ds ++ es) = tally stage ds + tally stage es := List.countP_append

theorem Diagnostic.tally_lexical_add_grammatical (ds : List Diagnostic) :
    tally .lexical ds + tally .grammatical ds = ds.length := by
  rw [List.length_eq_countP_add_countP fun d : Diagnostic => decide (d.stage = .lexical)]
  refine congrArg _ (List.countP_congr fun d _ => ?_)
  cases d <;> simp [Diagnostic.stage]

/-- The errors of a stage that a recognition counts. -/
def Recognition.count (r : Recognition) : Diagnostic.Stage → Nat
  | .lexical => r.lexicalErrors
  | .grammatical => r.grammaticalErrors

/-- The item that a diagnostic is about; none at the end. -/
def Diagnostic.item? : Diagnostic → Option Item
  | illegalCharacter c span => some (.illegal c span)
  | unexpectedToken t _ => some (.token t)
  | unexpectedEnd _ _ => none

def Item.illegals : List Item → List Diagnostic
  | [] => []
  | .illegal c span :: items => .illegalCharacter c span :: illegals items
  | .token _ :: items => illegals items

theorem Item.filter_grammatical_illegals : ∀ items : List Item,
    (illegals items).filter Diagnostic.isGrammatical = []
  | [] => rfl
  | .illegal _ _ :: items => filter_grammatical_illegals items
  | .token _ :: items => filter_grammatical_illegals items

/-- Of more than one item the first does not say where the last one stops. -/
theorem Item.last_stop_cons (item : Item) (items : List Item) (o : Nat) :
    ((item :: items).getLast?.map fun item => item.span.stop).getD o
      = (items.getLast?.map fun item => item.span.stop).getD item.span.stop := by
  rw [List.getLast?_cons]
  cases items.getLast? <;> rfl

namespace Matcher

def count (m : Matcher) : Diagnostic.Stage → Nat
  | .lexical => m.lexicalErrors
  | .grammatical => m.grammaticalErrors

/-- The diagnostics of some items, the end of the run apart. -/
def told (g : Grammar) (r : Recovery) : Matcher → List Item → List Diagnostic
  | _, [] => []
  | m, item :: items => m.report item ++ told g r (m.next g r item) items

theorem reports_eq_told_append (g : Grammar) (r : Recovery) : ∀ (items : List Item) (m : Matcher),
    reports g r m items = told g r m items ++ (m.run g r items).finalReport
  | [], _ => rfl
  | item :: items, m => by
    rw [reports, told, reports_eq_told_append g r items, List.append_assoc]
    rfl

/-! ## One step -/

/-- What becomes of a token: behind a halt nothing, and else it is taken or refused. -/
inductive Fate (m : Matcher) (t : Token) : Prop where
  | passed : m.halted = true → Fate m t
  | taken (c : Cursor) : m.halted = false → m.cursor.advance? t.kind = some c → Fate m t
  | refused : m.halted = false → m.cursor.advance? t.kind = none → Fate m t

theorem fate (m : Matcher) (t : Token) : m.Fate t := by
  cases hh : m.halted with
  | true => exact .passed hh
  | false =>
    cases hc : m.cursor.advance? t.kind with
    | some c => exact .taken c hh hc
    | none => exact .refused hh hc

section Step

variable (g : Grammar) (r : Recovery) {m : Matcher} {t : Token}

theorem next_of_halted (h : m.halted = true) :
    m.next g r (.token t) = { m with stop := t.span.stop, tokens := m.tokens + 1 } := by
  simp [next, h]

theorem report_of_halted (h : m.halted = true) : m.report (.token t) = [] := by
  simp [report, h]

theorem next_of_advance {c : Cursor} (h : m.halted = false) (hc : m.cursor.advance? t.kind = some c) :
    m.next g r (.token t)
      = { m with stop := t.span.stop, tokens := m.tokens + 1, cursor := c, quiet := m.quiet - 1 } := by
  simp [next, h, hc]

theorem report_of_advance {c : Cursor} (h : m.halted = false) (hc : m.cursor.advance? t.kind = some c) :
    m.report (.token t) = [] := by
  simp [report, h, hc]

theorem next_of_refusal (h : m.halted = false) (hc : m.cursor.advance? t.kind = none) :
    m.next g r (.token t) = afterRefusal g r { m with stop := t.span.stop, tokens := m.tokens + 1 } := by
  simp [next, h, hc]

theorem report_of_refusal (h : m.halted = false) (hc : m.cursor.advance? t.kind = none) :
    m.report (.token t) = if m.quiet = 0 then [.unexpectedToken t m.cursor.expected] else [] := by
  simp [report, h, hc]

end Step

section Refusal

variable (g : Grammar) (r : Recovery) (m : Matcher)

theorem stop_afterRefusal : (afterRefusal g r m).stop = m.stop := by
  unfold afterRefusal
  by_cases hq : m.quiet = 0 <;> cases r.mode <;> simp [hq]

theorem tokens_afterRefusal : (afterRefusal g r m).tokens = m.tokens := by
  unfold afterRefusal
  by_cases hq : m.quiet = 0 <;> cases r.mode <;> simp [hq]

/-- A refusal is counted unless a token is owed. -/
theorem count_afterRefusal (stage : Diagnostic.Stage) : (afterRefusal g r m).count stage
    = m.count stage + if stage = .grammatical ∧ m.quiet = 0 then 1 else 0 := by
  unfold afterRefusal
  by_cases hq : m.quiet = 0 <;> cases r.mode <;> cases stage <;> simp [hq, count]

end Refusal

theorem stop_next (g : Grammar) (r : Recovery) (m : Matcher) (item : Item) :
    (m.next g r item).stop = item.span.stop := by
  cases item with
  | illegal c span => rfl
  | token t =>
    cases m.fate t with
    | passed hh => rw [next_of_halted g r hh]; rfl
    | taken c hh hc => rw [next_of_advance g r hh hc]; rfl
    | refused hh hc => rw [next_of_refusal g r hh hc, stop_afterRefusal]; rfl

theorem tokens_next_token (g : Grammar) (r : Recovery) (m : Matcher) (t : Token) :
    (m.next g r (.token t)).tokens = m.tokens + 1 := by
  cases m.fate t with
  | passed hh => rw [next_of_halted g r hh]
  | taken c hh hc => rw [next_of_advance g r hh hc]
  | refused hh hc => rw [next_of_refusal g r hh hc, tokens_afterRefusal]

/-- **A step counts what it tells.** -/
theorem count_next (g : Grammar) (r : Recovery) (stage : Diagnostic.Stage) (m : Matcher) (item : Item) :
    (m.next g r item).count stage = m.count stage + Diagnostic.tally stage (m.report item) := by
  cases item with
  | illegal c span => cases stage <;> rfl
  | token t =>
    cases m.fate t with
    | passed hh => rw [next_of_halted g r hh, report_of_halted hh]; cases stage <;> rfl
    | taken c hh hc => rw [next_of_advance g r hh hc, report_of_advance hh hc]; cases stage <;> rfl
    | refused hh hc =>
      rw [next_of_refusal g r hh hc, report_of_refusal hh hc, count_afterRefusal]
      by_cases hq : m.quiet = 0 <;> cases stage <;> simp [hq, count, Diagnostic.tally, Diagnostic.stage]

theorem count_finish (stage : Diagnostic.Stage) (m : Matcher) :
    m.finish.count stage = m.count stage + Diagnostic.tally stage m.finalReport := by
  cases hh : m.halted with
  | true => cases stage <;> simp [finish, finalReport, hh, count, Recognition.count, Diagnostic.tally]
  | false =>
    cases hc : m.cursor.completed? with
    | some p => cases stage <;> simp [finish, finalReport, hh, hc, count, Recognition.count, Diagnostic.tally]
    | none =>
      by_cases hq : m.quiet = 0 <;> cases stage <;>
        simp [finish, finalReport, hh, hc, hq, count, Recognition.count, Diagnostic.tally, Diagnostic.stage]

/-! ## Whole runs -/

theorem stop_run (g : Grammar) (r : Recovery) : ∀ (items : List Item) (m : Matcher),
    (m.run g r items).stop = (items.getLast?.map fun item => item.span.stop).getD m.stop
  | [], _ => rfl
  | item :: items, m => by
    have hrun : m.run g r (item :: items) = (m.next g r item).run g r items := rfl
    rw [hrun, stop_run g r items, stop_next, Item.last_stop_cons]

theorem count_run (g : Grammar) (r : Recovery) (stage : Diagnostic.Stage) : ∀ (items : List Item) (m : Matcher),
    (m.run g r items).count stage = m.count stage + Diagnostic.tally stage (told g r m items)
  | [], _ => rfl
  | item :: items, m => by
    have hrun : m.run g r (item :: items) = (m.next g r item).run g r items := rfl
    rw [hrun, count_run g r stage items, count_next, told, Diagnostic.tally_append, Nat.add_assoc]

/-- **A run counts what it tells**, its end included. -/
theorem count_finish_run (g : Grammar) (r : Recovery) (stage : Diagnostic.Stage) (m : Matcher) (items : List Item) :
    (m.run g r items).finish.count stage = m.count stage + Diagnostic.tally stage (reports g r m items) := by
  rw [count_finish, count_run, reports_eq_told_append, Diagnostic.tally_append, Nat.add_assoc]

/-! ## Whom it tells of -/

theorem report_token (m : Matcher) (t : Token) :
    m.report (.token t) = [] ∨ m.report (.token t) = [.unexpectedToken t m.cursor.expected] := by
  cases m.fate t with
  | passed hh => exact .inl (report_of_halted hh)
  | taken c hh hc => exact .inl (report_of_advance hh hc)
  | refused hh hc =>
    rw [report_of_refusal hh hc]
    by_cases hq : m.quiet = 0
    · exact .inr (if_pos hq)
    · exact .inl (if_neg hq)

theorem map_item?_report (m : Matcher) (item : Item) :
    (m.report item).map Diagnostic.item? = [] ∨ (m.report item).map Diagnostic.item? = [some item] := by
  cases item with
  | illegal c span => exact .inr rfl
  | token t =>
    rcases report_token m t with h | h
    · rw [h]; exact .inl rfl
    · rw [h]; exact .inr rfl

/-- **What is told before the end is about some of the items, in their order.** -/
theorem map_item?_told (g : Grammar) (r : Recovery) : ∀ (items : List Item) (m : Matcher),
    ∃ told' : List Item, told'.Sublist items ∧ (told g r m items).map Diagnostic.item? = told'.map some
  | [], _ => ⟨[], List.Sublist.refl _, rfl⟩
  | item :: items, m => by
    obtain ⟨told', hsub, htold⟩ := map_item?_told g r items (m.next g r item)
    rw [told, List.map_append, htold]
    rcases map_item?_report m item with hnone | hone
    · rw [hnone]
      exact ⟨told', hsub.cons item, rfl⟩
    · rw [hone]
      exact ⟨item :: told', hsub.cons_cons item, rfl⟩

theorem unexpectedEnd_not_mem_told (g : Grammar) (r : Recovery) (m : Matcher) (items : List Item) (offset : Nat)
    (expected : List Kind) : .unexpectedEnd offset expected ∉ m.told g r items := by
  intro h
  obtain ⟨told', _, htold⟩ := map_item?_told g r items m
  have hmem := List.mem_map_of_mem (f := Diagnostic.item?) h
  rw [htold] at hmem
  simp [Diagnostic.item?] at hmem

theorem finalReport_eq_nil_or (m : Matcher) :
    m.finalReport = [] ∨ m.finalReport = [.unexpectedEnd m.stop m.cursor.expected] := by
  unfold finalReport
  cases m.halted <;> cases m.cursor.completed? <;> by_cases hq : m.quiet = 0 <;> simp [hq]

theorem filter_lexical_report (m : Matcher) (t : Token) :
    (m.report (.token t)).filter (fun d => !d.isGrammatical) = [] := by
  rcases report_token m t with h | h <;> rw [h] <;> rfl

/-- **Every illegal character is told**, in either mode and whatever is owed. -/
theorem filter_lexical_reports (g : Grammar) (r : Recovery) : ∀ (items : List Item) (m : Matcher),
    (m.reports g r items).filter (fun d => !d.isGrammatical) = Item.illegals items
  | [], m => by
    show m.finalReport.filter _ = []
    rcases finalReport_eq_nil_or m with h | h <;> rw [h] <;> rfl
  | .illegal c span :: items, m =>
    congrArg (Diagnostic.illegalCharacter c span :: ·) (filter_lexical_reports g r items _)
  | .token t :: items, m => by
    rw [reports, List.filter_append, filter_lexical_report, List.nil_append, filter_lexical_reports g r items]
    rfl

theorem reports_of_halted (g : Grammar) (r : Recovery) : ∀ (items : List Item) (m : Matcher), m.halted = true →
    m.reports g r items = Item.illegals items
  | [], m, h => by simp [reports, finalReport, h, Item.illegals]
  | .illegal c span :: items, m, h =>
    congrArg (Diagnostic.illegalCharacter c span :: ·) (reports_of_halted g r items _ h)
  | .token t :: items, m, h => by
    have hnext : (m.next g r (.token t)).halted = true := by rw [next_of_halted g r h]; exact h
    rw [reports, report_of_halted h, List.nil_append, reports_of_halted g r items _ hnext]
    rfl

/-! ## Silence -/

/-- Refusals go untold, or the matching is over. -/
def Silent (m : Matcher) : Prop := 0 < m.quiet ∨ m.halted = true

/-- A matcher that is silent has told a grammatical diagnostic before. -/
def Candid (m : Matcher) : Prop := m.Silent → 0 < m.grammaticalErrors

theorem candid_start (g : Grammar) : (start g).Candid := by
  rintro (h | h) <;> cases h

/-- **A step keeps a matcher candid**: what makes it silent is a refusal, and the first of those is told. -/
theorem Candid.next {m : Matcher} (hm : m.Candid) (g : Grammar) (r : Recovery) (item : Item) :
    (m.next g r item).Candid := by
  cases item with
  | illegal c span => exact hm
  | token t =>
    cases m.fate t with
    | passed hh => rw [next_of_halted g r hh]; exact hm
    | taken c hh hc =>
      rw [next_of_advance g r hh hc]
      rintro (hq | hq)
      · exact hm (.inl (Nat.lt_of_lt_of_le hq (Nat.sub_le _ _)))
      · exact hm (.inr hq)
    | refused hh hc =>
      intro _
      have htold : 0 < (m.next g r (.token t)).count .grammatical := by
        rw [count_next, report_of_refusal hh hc]
        by_cases hq : m.quiet = 0
        · rw [if_pos hq]
          exact Nat.succ_pos _
        · rw [if_neg hq]
          exact Nat.lt_of_lt_of_le (hm (.inl (Nat.pos_of_ne_zero hq))) (Nat.le_add_right _ _)
      exact htold

theorem Candid.run {m : Matcher} (hm : m.Candid) (g : Grammar) (r : Recovery) (items : List Item) :
    (m.run g r items).Candid := by
  induction items generalizing m with
  | nil => exact hm
  | cons item items ih => exact ih (hm.next g r item)

/-- **A run that has gone silent has told why.** -/
theorem told_of_silent (g : Grammar) (r : Recovery) (items : List Item) (h : ((start g).run g r items).Silent) :
    0 < ((start g).run g r items).grammaticalErrors ∧ ∃ d ∈ (start g).told g r items, d.isGrammatical = true := by
  have hcounted := (candid_start g).run g r items h
  have hcount := count_run g r .grammatical items (start g)
  rw [show (start g).count .grammatical = 0 from rfl, Nat.zero_add] at hcount
  have htally : 0 < Diagnostic.tally .grammatical ((start g).told g r items) := hcount ▸ hcounted
  obtain ⟨d, hd, hstage⟩ := List.countP_pos_iff.1 htally
  exact ⟨hcounted, d, hd, hstage⟩

/-- At the end of a candid run no template is missing unless something was told. -/
theorem Candid.matched_isSome {m : Matcher} (hm : m.Candid) (hg : m.grammaticalErrors = 0)
    (hfinal : m.finalReport = []) : m.finish.matched.isSome = true := by
  have hloud : ¬ m.Silent := fun hs => Nat.lt_irrefl _ (hg ▸ hm hs)
  have hq : m.quiet = 0 := Nat.eq_zero_of_not_pos fun hq => hloud (.inl hq)
  have hh : m.halted = false := Bool.eq_false_iff.2 fun hh => hloud (.inr hh)
  cases hc : m.cursor.completed? with
  | some p => simp [finish, hh, hc]
  | none => simp [finalReport, hh, hc, hq] at hfinal

end Matcher

/-! ## Recognition -/

theorem count_recognize (g : Grammar) (r : Recovery) (stage : Diagnostic.Stage) (items : List Item) :
    (recognize g r items).count stage = Diagnostic.tally stage (diagnose g r items) := by
  have hstart : (Matcher.start g).count stage = 0 := by cases stage <;> rfl
  rw [recognize, Matcher.count_finish_run, hstart, Nat.zero_add]
  rfl

/-- What a run tells of its items, and then perhaps the end, which stands where the last of them ends. -/
theorem diagnose_eq_told_or (g : Grammar) (r : Recovery) (items : List Item) :
    diagnose g r items = (Matcher.start g).told g r items ∨ ∃ expected, diagnose g r items
      = (Matcher.start g).told g r items
        ++ [.unexpectedEnd ((items.getLast?.map fun item => item.span.stop).getD 0) expected] := by
  rw [diagnose, Matcher.reports_eq_told_append]
  rcases Matcher.finalReport_eq_nil_or ((Matcher.start g).run g r items) with hfinal | hfinal
  · rw [hfinal, List.append_nil]
    exact .inl rfl
  · rw [hfinal, Matcher.stop_run]
    exact .inr ⟨_, rfl⟩

theorem diagnostics_recognize (g : Grammar) (r : Recovery) (items : List Item) :
    (recognize g r items).diagnostics = (diagnose g r items).length := by
  rw [← Diagnostic.tally_lexical_add_grammatical, ← count_recognize, ← count_recognize]
  rfl

/-- **A run is accepted exactly when it tells nothing.** -/
theorem accepted_recognize_iff (g : Grammar) (r : Recovery) (items : List Item) :
    (recognize g r items).accepted = true ↔ diagnose g r items = [] := by
  have hdiag := diagnostics_recognize g r items
  simp only [Recognition.accepted, Bool.and_eq_true, decide_eq_true_eq, hdiag, List.length_eq_zero_iff]
  refine ⟨And.right, fun hnone => ⟨?_, hnone⟩⟩
  have hreports := hnone
  rw [diagnose, Matcher.reports_eq_told_append, List.append_eq_nil_iff] at hreports
  have hcount := Matcher.count_run g r .grammatical items (Matcher.start g)
  rw [hreports.1] at hcount
  exact ((Matcher.candid_start g).run g r items).matched_isSome hcount hreports.2

end Plantilla
