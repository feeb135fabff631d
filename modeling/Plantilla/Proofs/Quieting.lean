import Plantilla.Proofs.Segmentation
/-!
# Quieting — a debt only silences

Two runs that resynchronize and owe different numbers of tokens stay in lock step: they refuse the same tokens and
start over at the same places, and only the debt differs (`Quieter`).  So the run that owes more tells a sublist of
what the other tells.

Halting is the limit of this.  All runs agree up to the first refusal (`reports_first_refusal`).  Behind it a halted
matcher tells the illegal characters alone (`reports_of_halted`), and so does one that owes more tokens than any
template has, because no segment is long enough to pay the debt (`reports_of_unpayable`).  A token less would not do
(`exists_diagnose_ne_halt`).
-/
namespace Plantilla
namespace Matcher

theorem afterRefusal_synchronize (g : Grammar) (q : Nat) (m : Matcher) :
    afterRefusal g ⟨.synchronize, q⟩ m = { m with
      quiet := q, cursor := Cursor.start g,
      grammaticalErrors := if m.quiet = 0 then m.grammaticalErrors + 1 else m.grammaticalErrors } := by
  unfold afterRefusal
  by_cases hq : m.quiet = 0 <;> simp [hq]

theorem halted_afterRefusal (g : Grammar) (k : Nat) (m : Matcher) : (afterRefusal g ⟨.halt, k⟩ m).halted = true := rfl

/-! ## Two debts -/

/-- Two matchers at the same place, of which the second owes as much or more. -/
structure Quieter (m m' : Matcher) : Prop where
  cursor : m'.cursor = m.cursor
  halted : m'.halted = m.halted
  stop : m'.stop = m.stop
  tokens : m'.tokens = m.tokens
  lexicalErrors : m'.lexicalErrors = m.lexicalErrors
  quiet : m.quiet ≤ m'.quiet

namespace Quieter

variable {m m' : Matcher}

theorem refl (m : Matcher) : Quieter m m := ⟨rfl, rfl, rfl, rfl, rfl, Nat.le_refl _⟩

theorem advance? (h : Quieter m m') (k : Kind) : m'.cursor.advance? k = m.cursor.advance? k := by rw [h.cursor]

theorem next (h : Quieter m m') {q q' : Nat} (hq : q ≤ q') (g : Grammar) (item : Item) :
    Quieter (m.next g ⟨.synchronize, q⟩ item) (m'.next g ⟨.synchronize, q'⟩ item) := by
  cases item with
  | illegal c span => exact ⟨h.cursor, h.halted, rfl, h.tokens, congrArg (· + 1) h.lexicalErrors, h.quiet⟩
  | token t =>
    have htokens : m'.tokens + 1 = m.tokens + 1 := congrArg (· + 1) h.tokens
    cases m.fate t with
    | passed hh =>
      rw [next_of_halted g _ hh, next_of_halted g _ (h.halted.trans hh)]
      exact ⟨h.cursor, h.halted, rfl, htokens, h.lexicalErrors, h.quiet⟩
    | taken c hh hc =>
      rw [next_of_advance g _ hh hc, next_of_advance g _ (h.halted.trans hh) ((h.advance? _).trans hc)]
      exact ⟨rfl, h.halted, rfl, htokens, h.lexicalErrors, Nat.sub_le_sub_right h.quiet 1⟩
    | refused hh hc =>
      rw [next_of_refusal g _ hh hc, next_of_refusal g _ (h.halted.trans hh) ((h.advance? _).trans hc),
        afterRefusal_synchronize, afterRefusal_synchronize]
      exact ⟨rfl, h.halted, rfl, htokens, h.lexicalErrors, hq⟩

theorem report_sublist (h : Quieter m m') (item : Item) : (m'.report item).Sublist (m.report item) := by
  cases item with
  | illegal c span => exact List.Sublist.refl _
  | token t =>
    cases m.fate t with
    | passed hh =>
      rw [report_of_halted (h.halted.trans hh)]
      exact List.nil_sublist _
    | taken c hh hc =>
      rw [report_of_advance (h.halted.trans hh) ((h.advance? _).trans hc)]
      exact List.nil_sublist _
    | refused hh hc =>
      rw [report_of_refusal hh hc, report_of_refusal (h.halted.trans hh) ((h.advance? _).trans hc), h.cursor]
      by_cases hq' : m'.quiet = 0
      · have hq : m.quiet = 0 := Nat.le_zero.1 (hq' ▸ h.quiet)
        rw [if_pos hq, if_pos hq']
      · rw [if_neg hq']
        exact List.nil_sublist _

theorem finalReport_sublist (h : Quieter m m') : m'.finalReport.Sublist m.finalReport := by
  unfold finalReport
  rw [h.halted, h.cursor, h.stop]
  cases m.halted with
  | true => exact List.Sublist.refl _
  | false =>
    cases m.cursor.completed? with
    | some p => exact List.Sublist.refl _
    | none =>
      by_cases hq' : m'.quiet = 0
      · have hq : m.quiet = 0 := Nat.le_zero.1 (hq' ▸ h.quiet)
        simp [hq, hq']
      · simp [hq']

theorem finish (h : Quieter m m') :
    m'.finish.matched = m.finish.matched ∧ m'.finish.tokens = m.finish.tokens ∧
      m'.finish.lexicalErrors = m.finish.lexicalErrors := by
  unfold Matcher.finish
  rw [h.halted, h.cursor, h.tokens, h.lexicalErrors]
  cases m.halted with
  | true => exact ⟨rfl, rfl, rfl⟩
  | false => cases m.cursor.completed? <;> exact ⟨rfl, rfl, rfl⟩

theorem run {q q' : Nat} (hq : q ≤ q') (g : Grammar) : ∀ (items : List Item) {m m' : Matcher}, Quieter m m' →
    Quieter (m.run g ⟨.synchronize, q⟩ items) (m'.run g ⟨.synchronize, q'⟩ items)
  | [], _, _, h => h
  | item :: items, _, _, h => run hq g items (h.next hq g item)

theorem reports_sublist {q q' : Nat} (hq : q ≤ q') (g : Grammar) : ∀ (items : List Item) {m m' : Matcher},
    Quieter m m' → (m'.reports g ⟨.synchronize, q'⟩ items).Sublist (m.reports g ⟨.synchronize, q⟩ items)
  | [], _, _, h => h.finalReport_sublist
  | item :: items, _, _, h => (h.report_sublist item).append (reports_sublist hq g items (h.next hq g item))

end Quieter
end Matcher

/-- **Owing more only silences.**  Of two runs that resynchronize, the one that owes more after a refusal matches the
same template, counts the same tokens and illegal characters, and tells a sublist of what the other tells. -/
theorem diagnose_sublist_of_le {q q' : Nat} (h : q ≤ q') (g : Grammar) (items : List Item) :
    (recognize g ⟨.synchronize, q'⟩ items).matched = (recognize g ⟨.synchronize, q⟩ items).matched ∧
    (recognize g ⟨.synchronize, q'⟩ items).tokens = (recognize g ⟨.synchronize, q⟩ items).tokens ∧
    (recognize g ⟨.synchronize, q'⟩ items).lexicalErrors = (recognize g ⟨.synchronize, q⟩ items).lexicalErrors ∧
    (diagnose g ⟨.synchronize, q'⟩ items).Sublist (diagnose g ⟨.synchronize, q⟩ items) := by
  have hstart := Matcher.Quieter.refl (Matcher.start g)
  obtain ⟨hmatched, htokens, hlexical⟩ := (Matcher.Quieter.run h g items hstart).finish
  exact ⟨hmatched, htokens, hlexical, Matcher.Quieter.reports_sublist h g items hstart⟩

/-- Two matched tokens pay a debt of two and not one of three. -/
theorem diagnose_sublist_two_three :
    2 ≤ 3 ∧
    (recognize .stock ⟨.synchronize, 3⟩ (scan "5 var int 7")).matched
      = (recognize .stock ⟨.synchronize, 2⟩ (scan "5 var int 7")).matched ∧
    (diagnose .stock ⟨.synchronize, 3⟩ (scan "5 var int 7")).Sublist
      (diagnose .stock ⟨.synchronize, 2⟩ (scan "5 var int 7")) ∧
    (diagnose .stock ⟨.synchronize, 3⟩ (scan "5 var int 7")).length = 1 ∧
    (diagnose .stock ⟨.synchronize, 2⟩ (scan "5 var int 7")).length = 2 := by
  have hle : 2 ≤ 3 := by decide
  obtain ⟨hmatched, _, _, hsub⟩ := diagnose_sublist_of_le hle .stock (scan "5 var int 7")
  exact ⟨hle, hmatched, hsub, by decide +kernel, by decide +kernel⟩

/-! ## The first refusal -/

namespace Matcher

/-- **All runs agree up to the first refusal.**  It never comes, and every run tells the same, at most one grammatical
diagnostic at the end; or every run tells the same illegal characters and then the refusal, and goes on from there. -/
theorem reports_first_refusal (g : Grammar) : ∀ (items : List Item) (seg : List Kind) (m : Matcher),
    Follows g seg m → m.quiet = 0 →
      (∃ ds, (ds.filter Diagnostic.isGrammatical).length ≤ 1 ∧ ∀ r, m.reports g r items = ds) ∨
      ∃ ds seg' m' t later, (∀ d ∈ ds, d.isGrammatical = false) ∧ Follows g seg' m' ∧ m'.quiet = 0 ∧
        ¬ g.Begins (seg' ++ [t.kind]) ∧ ∀ r, m.reports g r items =
          ds ++ .unexpectedToken t (g.expectedAfter seg') :: (m'.next g r (.token t)).reports g r later
  | [], _, m, _, _ => by
    refine .inl ⟨m.finalReport, ?_, fun _ => rfl⟩
    rcases finalReport_eq_nil_or m with h | h <;> rw [h] <;> simp [Diagnostic.isGrammatical, Diagnostic.stage]
  | .illegal c span :: items, seg, m, hm, hq => by
    have hnext : ∀ r, m.reports g r (.illegal c span :: items) = .illegalCharacter c span ::
        (m.next g {} (.illegal c span)).reports g r items := fun _ => rfl
    rcases reports_first_refusal g items seg _ (hm.illegal {} c span) hq with ⟨ds, hds, hsame⟩ |
      ⟨ds, seg', m', t, later, hds, hm', hq', hk, hsame⟩
    · refine .inl ⟨.illegalCharacter c span :: ds, hds, fun r => ?_⟩
      rw [hnext, hsame]
    · refine .inr ⟨.illegalCharacter c span :: ds, seg', m', t, later, ?_, hm', hq', hk, fun r => ?_⟩
      · rintro d (_ | ⟨_, hd⟩)
        · rfl
        · exact hds d hd
      · rw [hnext, hsame, List.cons_append]
  | .token t :: items, seg, m, hm, hq => by
    by_cases hk : g.Begins (seg ++ [t.kind])
    · have hnext : ∀ r, m.reports g r (.token t :: items) = (m.next g {} (.token t)).reports g r items := by
        intro r
        rw [reports, hm.report_of_begins hk, List.nil_append, hm.next_of_begins r hk, hm.next_of_begins {} hk]
      have hq' : (m.next g {} (.token t)).quiet = 0 := by rw [hm.quiet_next {} hk, hq]
      simp only [hnext]
      exact reports_first_refusal g items _ _ (hm.advance {} hk) hq'
    · refine .inr ⟨[], seg, m, t, items, by simp, hm, hq, hk, fun r => ?_⟩
      rw [reports, hm.report_of_not_begins hk, if_pos hq]
      rfl

/-! ## A debt that no template pays, and a halt -/

/-- Behind a discard a matcher tells illegal characters only, if it owes more tokens than any template has. -/
theorem reports_of_unpayable {g : Grammar} {q : Nat} (hlong : ∀ p ∈ g.productions, p.kinds.length < q) :
    ∀ (items : List Item) (a : Nat) (seg : List Kind) (m : Matcher), Synced g q a seg m → a ≠ 0 → g.Begins seg →
      m.reports g ⟨.synchronize, q⟩ items = Item.illegals items := by
  have hshort : ∀ seg, g.Begins seg → seg.length < q := by
    rintro seg ⟨p, hp, hseg⟩
    exact Nat.lt_of_le_of_lt hseg.length_le (hlong p hp)
  intro items
  induction items with
  | nil =>
    intro a seg m hm ha hseg
    have hquiet : m.quiet ≠ 0 := by
      rw [Ne, hm.quiet_eq_zero_iff]
      have := hshort seg hseg
      omega
    show m.finalReport = []
    rw [hm.toFollows.finalReport_eq, if_neg fun h => hquiet h.2]
  | cons item items ih =>
    intro a seg m hm ha hseg
    cases item with
    | illegal c span =>
      exact congrArg (Diagnostic.illegalCharacter c span :: ·) (ih a seg _ (hm.skip c span) ha hseg)
    | token t =>
      rw [reports]
      by_cases hk : g.Begins (seg ++ [t.kind])
      · rw [hm.toFollows.report_of_begins hk, ih a _ _ (hm.take hk) ha hk]
        rfl
      · have hsilent : isTold q (a, a + seg.length + 1) = false := by
          have := hshort seg hseg
          simp only [isTold, Bool.or_eq_false_iff, decide_eq_false_iff_not]
          omega
        rw [hm.report_refuse hk, hsilent, ih _ [] _ (hm.refuse hk) (Nat.succ_ne_zero _) g.begins_nil]
        rfl

section Halt

variable {g : Grammar} {seg : List Kind} {m : Matcher} {t : Token}

theorem reports_halt_of_refusal (hm : m.Follows g seg) (hk : ¬ g.Begins (seg ++ [t.kind])) (k : Nat)
    (later : List Item) : (m.next g ⟨.halt, k⟩ (.token t)).reports g ⟨.halt, k⟩ later = Item.illegals later := by
  rw [hm.next_of_not_begins _ hk]
  exact Matcher.reports_of_halted g _ later _ (Matcher.halted_afterRefusal g k _)

theorem filter_grammatical_refusal {ds : List Diagnostic} (hds : ∀ d ∈ ds, d.isGrammatical = false)
    (expected : List Kind) (later : List Diagnostic) :
    (ds ++ .unexpectedToken t expected :: later).filter Diagnostic.isGrammatical
      = .unexpectedToken t expected :: later.filter Diagnostic.isGrammatical := by
  have hnone : ds.filter Diagnostic.isGrammatical = [] :=
    List.filter_eq_nil_iff.2 fun d hd => by rw [hds d hd]; exact Bool.false_ne_true
  rw [List.filter_append, hnone, List.nil_append, List.filter_cons_of_pos rfl]

end Halt

end Matcher

/-- **Halting is the limit of owing more and more.**  A run that halts tells a sublist of what any resynchronizing run
tells: every lexical diagnostic, and of the grammatical ones the first.  And it tells the same as a run that owes more
tokens after a refusal than the longest template has. -/
theorem halt_eq_quiet_limit (g : Grammar) (k : Nat) (items : List Item) :
    (∀ q, (diagnose g ⟨.halt, k⟩ items).Sublist (diagnose g ⟨.synchronize, q⟩ items) ∧
      (diagnose g ⟨.halt, k⟩ items).filter (fun d => !d.isGrammatical)
        = (diagnose g ⟨.synchronize, q⟩ items).filter (fun d => !d.isGrammatical) ∧
      (diagnose g ⟨.halt, k⟩ items).filter Diagnostic.isGrammatical
        = ((diagnose g ⟨.synchronize, q⟩ items).filter Diagnostic.isGrammatical).take 1) ∧
    ∀ q, (∀ p ∈ g.productions, p.kinds.length < q) →
      diagnose g ⟨.synchronize, q⟩ items = diagnose g ⟨.halt, k⟩ items := by
  have hlexical : ∀ r, (diagnose g r items).filter (fun d => !d.isGrammatical) = Item.illegals items := fun r =>
    Matcher.filter_lexical_reports g r items _
  rcases Matcher.reports_first_refusal g items [] _ (Matcher.follows_start g) rfl with ⟨ds, hds, hsame⟩ |
    ⟨ds, seg, m, t, later, hds, hm, hq, hk, hsame⟩
  · have hdiagnose : ∀ r, diagnose g r items = ds := hsame
    simp only [hdiagnose, List.take_of_length_le hds, and_self, implies_true, List.Sublist.refl]
  · have hdiagnose : ∀ r, diagnose g r items
        = ds ++ .unexpectedToken t (g.expectedAfter seg) :: (m.next g r (.token t)).reports g r later := hsame
    have hhalt := Matcher.reports_halt_of_refusal hm hk k later
    refine ⟨fun q => ⟨?_, by rw [hlexical, hlexical], ?_⟩, fun q hlong => ?_⟩
    · have hrest := Matcher.filter_lexical_reports g ⟨.synchronize, q⟩ later (m.next g ⟨.synchronize, q⟩ (.token t))
      rw [hdiagnose, hdiagnose, hhalt, ← hrest]
      exact (List.Sublist.refl ds).append (List.filter_sublist.cons_cons _)
    · rw [hdiagnose, hdiagnose, hhalt, Matcher.filter_grammatical_refusal hds, Matcher.filter_grammatical_refusal hds,
        Item.filter_grammatical_illegals]
      rfl
    · have hsynced : Synced g q 0 seg m := ⟨hm, hq⟩
      rw [hdiagnose, hdiagnose, hhalt, Matcher.reports_of_unpayable hlong later _ [] _ (hsynced.refuse hk)
        (Nat.succ_ne_zero _) g.begins_nil]

/-- The longest template of the stock grammar has 19 kinds. -/
theorem halt_eq_quiet_twenty :
    (∀ p ∈ Grammar.stock.productions, p.kinds.length < 20) ∧
    diagnose .stock ⟨.synchronize, 20⟩ (scan "5 # var 6 @") = diagnose .stock ⟨.halt, 3⟩ (scan "5 # var 6 @") ∧
    (diagnose .stock ⟨.halt, 3⟩ (scan "5 # var 6 @")).length = 3 :=
  ⟨by decide, (halt_eq_quiet_limit .stock 3 (scan "5 # var 6 @")).2 20 (by decide), by decide +kernel⟩

/-! ## The limit is sharp -/

theorem cuts_append {g : Grammar} {a : Nat} (ls : List Kind) : ∀ (ks seg : List Kind), g.Begins (seg ++ ks) →
    cuts g a seg (ks ++ ls) = cuts g a (seg ++ ks) ls
  | [], seg, _ => by rw [List.append_nil, List.nil_append]
  | k :: ks, seg, h => by
    rw [List.append_cons] at h ⊢
    rw [List.cons_append, cuts, if_pos (h.of_prefix (List.prefix_append _ _)), cuts_append ls ks _ h]

/-- Behind a segment that no kind lengthens, any kind is a discard. -/
theorem cuts_append_cons {g : Grammar} {a : Nat} {seg : List Kind} (hseg : g.Begins seg) (k : Kind) (ks : List Kind)
    (hfull : ¬ g.Begins (seg ++ [k])) :
    cuts g a [] (seg ++ k :: ks) = (a + seg.length + 1) :: cuts g (a + seg.length + 1) [] ks := by
  rw [cuts_append _ seg [] hseg, List.nil_append, cuts, if_neg hfull]

theorem length_grammatical_halt_le (g : Grammar) (k : Nat) (items : List Item) :
    ((diagnose g ⟨.halt, k⟩ items).filter Diagnostic.isGrammatical).length ≤ 1 := by
  rcases Matcher.reports_first_refusal g items [] _ (Matcher.follows_start g) rfl with ⟨ds, hds, hsame⟩ |
    ⟨ds, seg, m, t, later, hds, hm, _, hk, hsame⟩
  · rw [diagnose, hsame]
    exact hds
  · rw [diagnose, hsame, Matcher.reports_halt_of_refusal hm hk, Matcher.filter_grammatical_refusal hds,
      Item.filter_grammatical_illegals]
    exact Nat.le_refl 1

/-- **The limit is sharp.**  A run that owes as many tokens as the longest template has can tell more than a run that
halts: the template, each of two times with a token too many, is two refusals, and the second one finds the debt of
the first paid. -/
theorem exists_diagnose_ne_halt {g : Grammar} {p : Production} (hp : p ∈ g.productions)
    (hlong : ∀ p' ∈ g.productions, p'.kinds.length ≤ p.kinds.length) (k : Nat) :
    ∃ items, diagnose g ⟨.synchronize, p.kinds.length⟩ items ≠ diagnose g ⟨.halt, k⟩ items := by
  let n := p.kinds.length
  let ts := (p.kinds ++ Kind.plus :: (p.kinds ++ [.plus])).map fun kind => Token.make kind (.text "") ⟨0, 0⟩
  have hkinds : ts.map Token.kind = p.kinds ++ .plus :: (p.kinds ++ [.plus]) := by
    rw [List.map_map]
    exact List.map_id _
  have htokens : Item.tokens (ts.map .token) = ts := by
    simp [Item.tokens, List.filterMap_map, Function.comp_def, Item.token?]
  have hbegins : g.Begins p.kinds := ⟨p, hp, List.prefix_refl _⟩
  have hfull : ¬ g.Begins (p.kinds ++ [.plus]) := by
    rintro ⟨p', hp', hprefix⟩
    have hlen := hprefix.length_le
    have := hlong p' hp'
    rw [List.length_append, List.length_singleton] at hlen
    omega
  have hcuts : cuts g 0 [] (ts.map Token.kind) = [n + 1, n + 1 + n + 1] := by
    rw [hkinds, cuts_append_cons hbegins _ _ hfull, cuts_append_cons hbegins _ _ hfull, cuts, Nat.zero_add]
  have htold := told_grammatical g n ts (ts.map .token) _ 0 [] (.start g n) htokens.symm
    (by rw [Item.kinds, htokens]; rfl)
  rw [Item.kinds, htokens, hcuts] at htold
  have hlen : ts.length = n + 1 + n + 1 := by simp [ts, n]; omega
  have htwo : (refusals g n ts (stretches 0 [n + 1, n + 1 + n + 1])).length = 2 := by
    have hfirst : isTold n (0, n + 1) = true := rfl
    have hsecond : isTold n (n + 1, n + 1 + n + 1) = true := by
      simp only [isTold, Bool.or_eq_true, decide_eq_true_eq]
      omega
    have hget : ts[n]? = some ts[n] := List.getElem?_eq_getElem (by omega)
    have hget' : ts[n + 1 + n]? = some ts[n + 1 + n] := List.getElem?_eq_getElem (by omega)
    simp only [refusals, stretches, List.zip_cons_cons, List.zip_nil_right, List.filter_cons_of_pos hfirst,
      List.filter_cons_of_pos hsecond, List.filter_nil, List.filterMap_cons, List.filterMap_nil, Nat.add_sub_cancel,
      hget, hget', Option.map_some, List.length_cons, List.length_nil]
  refine ⟨ts.map .token, fun heq => ?_⟩
  have hhalt := length_grammatical_halt_le g k (ts.map .token)
  rw [← heq, diagnose, Matcher.reports_eq_told_append, List.filter_append, htold, List.length_append, htwo] at hhalt
  omega

end Plantilla
