import Plantilla.Grammar.Stock
import Plantilla.Proofs.Following
/-!
# Expecting — what is said to be expected would have been taken

A diagnostic of the matching lists the kinds that were expected where it was told.  The list is read off the cursor, and
says what a run that never happened would do: a kind is on it exactly if a token of that kind, put in the place of the
refused one or behind the last item, is matched (`GoesOnWith.mem_iff`).

What ties the two together is the kinds taken since the last restart (`taken`): the matcher follows them as long as it
matches (`follows_taken`), and which kinds can come next is a question to the grammar alone (`mem_expectedAfter`).
-/
namespace Plantilla

/-! ## Lists without repeats -/

section Distinct

variable {α β : Type} [DecidableEq α]

theorem mem_distinct {a : α} : ∀ {as : List α}, a ∈ distinct as ↔ a ∈ as
  | [] => Iff.rfl
  | b :: as => by
    have ih : a ∈ distinct as ↔ a ∈ as := mem_distinct
    by_cases hab : a = b <;> simp [distinct, ih, hab]

theorem nodup_distinct : ∀ as : List α, (distinct as).Nodup
  | [] => List.nodup_nil
  | a :: as => by
    rw [distinct, List.nodup_cons]
    exact ⟨by simp, (nodup_distinct as).filter _⟩

/-- The entries stand in the order of the first elements that give them. -/
theorem pairwise_distinct_filterMap (f : β → Option α) : ∀ bs : List β,
    (distinct (bs.filterMap f)).Pairwise fun a a' =>
      (bs.findIdx fun b => f b = some a) < bs.findIdx fun b => f b = some a'
  | [] => List.Pairwise.nil
  | b :: bs => by
    have ih := pairwise_distinct_filterMap f bs
    have hlater : ∀ a, f b ≠ some a →
        ((b :: bs).findIdx fun b => f b = some a) = (bs.findIdx fun b => f b = some a) + 1 :=
      fun a ha => by simp [List.findIdx_cons, ha]
    cases hb : f b with
    | none =>
      rw [List.filterMap_cons_none hb]
      refine ih.imp fun {a a'} hlt => ?_
      rw [hlater a (by simp [hb]), hlater a' (by simp [hb])]
      exact Nat.succ_lt_succ hlt
    | some first =>
      rw [List.filterMap_cons_some hb, distinct, List.pairwise_cons]
      have hfirst : ((b :: bs).findIdx fun b => f b = some first) = 0 := by simp [List.findIdx_cons, hb]
      have hne : ∀ a ∈ (distinct (bs.filterMap f)).filter (· ≠ first), f b ≠ some a := by
        intro a ha heq
        rw [hb] at heq
        cases heq
        simp at ha
      constructor
      · intro a ha
        rw [hfirst, hlater a (hne a ha)]
        exact Nat.succ_pos _
      · refine (ih.filter _).imp_of_mem fun {a a'} ha ha' hlt => ?_
        rw [hlater a (hne a ha), hlater a' (hne a' ha')]
        exact Nat.succ_lt_succ hlt

end Distinct

/-! ## What a grammar expects -/

namespace Grammar

variable {g : Grammar} {ks : List Kind} {k : Kind}

/-- The place in the declarations of the first template that begins with these kinds. -/
def firstBeginning (g : Grammar) (ks : List Kind) : Nat := g.productions.findIdx fun p => ks <+: p.kinds

theorem expectedAfter_eq (g : Grammar) (ks : List Kind) : g.expectedAfter ks
    = distinct (g.productions.filterMap fun p => if ks <+: p.kinds then p.expects ks.length else none) := by
  simp [expectedAfter, List.filterMap_filter]

theorem next_eq_some_iff {p : Production} :
    (if ks <+: p.kinds then p.expects ks.length else none) = some k ↔ ks ++ [k] <+: p.kinds := by
  rw [Cursor.concat_prefix_iff]
  split <;> simp_all [Production.expects]

theorem mem_expectedAfter : k ∈ g.expectedAfter ks ↔ g.Begins (ks ++ [k]) := by
  simp only [expectedAfter_eq, mem_distinct, List.mem_filterMap, next_eq_some_iff, Begins]

theorem nodup_expectedAfter (g : Grammar) (ks : List Kind) : (g.expectedAfter ks).Nodup := nodup_distinct _

/-- Expected kinds stand in the order in which the first templates that go on with them are declared. -/
theorem pairwise_expectedAfter (g : Grammar) (ks : List Kind) : (g.expectedAfter ks).Pairwise fun k k' =>
    g.firstBeginning (ks ++ [k]) < g.firstBeginning (ks ++ [k']) := by
  have hpairwise := pairwise_distinct_filterMap
    (fun p : Production => if ks <+: p.kinds then p.expects ks.length else none) g.productions
  simp only [next_eq_some_iff] at hpairwise
  rw [expectedAfter_eq]
  exact hpairwise

theorem expectedAfter_nil (g : Grammar) : g.expectedAfter [] = g.firstKinds := by
  simp [expectedAfter, firstKinds]

/-- The kinds are those of a template, and no other template goes on behind them. -/
def Closes (g : Grammar) (ks : List Kind) : Prop :=
  ∃ p ∈ g.productions, p.kinds = ks ∧ ∀ q ∈ g.productions, ks <+: q.kinds → q = p

/-- **Nothing is expected exactly behind a template that no other one extends.** -/
theorem expectedAfter_eq_nil_iff (hks : g.Begins ks) : g.expectedAfter ks = [] ↔ g.Closes ks := by
  have hnil : g.expectedAfter ks = [] ↔ ∀ k, ¬ g.Begins (ks ++ [k]) := by
    simp only [List.eq_nil_iff_forall_not_mem, mem_expectedAfter]
  rw [hnil]
  constructor
  · intro hnone
    have hwhole : ∀ q ∈ g.productions, ks <+: q.kinds → q.kinds = ks := by
      rintro q hq ⟨tail, htail⟩
      cases tail with
      | nil => rw [← htail, List.append_nil]
      | cons k tail => exact absurd ⟨q, hq, tail, by rw [← htail, List.append_assoc]; rfl⟩ (hnone k)
    obtain ⟨p, hp, hbegins⟩ := hks
    have hkinds := hwhole p hp hbegins
    exact ⟨p, hp, hkinds, fun q hq h => eq_of_kinds_eq hq hp ((hwhole q hq h).trans hkinds.symm)⟩
  · rintro ⟨p, _, hkinds, hlast⟩ k ⟨q, hq, hlong⟩
    obtain rfl := hlast q hq ((List.prefix_append _ _).trans hlong)
    have hlength := hlong.length_le
    rw [hkinds, List.length_append, List.length_singleton] at hlength
    omega

end Grammar

/-! ## What a run has taken -/

namespace Matcher

/-- Whether the token would be matched. -/
def takes (m : Matcher) (t : Token) : Bool := !m.halted && (m.cursor.advance? t.kind).isSome

theorem takes_iff_matched {m : Matcher} {t : Token} : m.takes t = true ↔ ∃ n, .matched t n ∈ m.note (.token t) := by
  unfold takes note
  cases m.halted with
  | true => simp
  | false =>
    cases hc : m.cursor.advance? t.kind with
    | some c => simp [hc]
    | none => by_cases hq : m.quiet = 0 <;> simp [hc, hq]

/-- The kinds matched since the last restart, `ks` having been matched since then before these items. -/
def taken (g : Grammar) (r : Recovery) : Matcher → List Kind → List Item → List Kind
  | _, ks, [] => ks
  | m, ks, .illegal c span :: items => taken g r (m.next g r (.illegal c span)) ks items
  | m, ks, .token t :: items =>
    taken g r (m.next g r (.token t)) (if m.takes t then ks ++ [t.kind] else []) items

variable {g : Grammar} {seg : List Kind} {m : Matcher} {t : Token}

theorem Follows.takes_iff (h : Follows g seg m) (t : Token) : m.takes t = true ↔ g.Begins (seg ++ [t.kind]) := by
  unfold takes
  rw [h.halted, h.advance?]
  by_cases hk : g.Begins (seg ++ [t.kind]) <;> simp [hk]

theorem Follows.restart (h : Follows g seg m) (r : Recovery) (hk : ¬ g.Begins (seg ++ [t.kind]))
    (hgoes : (m.next g r (.token t)).halted = false) : Follows g [] (m.next g r (.token t)) := by
  rw [h.next_of_not_begins r hk] at hgoes ⊢
  refine ⟨?_, hgoes⟩
  unfold afterRefusal at hgoes ⊢
  cases hmode : r.mode with
  | halt => simp [hmode] at hgoes
  | synchronize => exact (Cursor.after_nil g).symm

/-- **As long as it matches, a matcher follows the kinds taken since its last restart**, and they begin a template. -/
theorem follows_taken (g : Grammar) (r : Recovery) : ∀ (items : List Item) (m : Matcher) (ks : List Kind),
    (m.halted = false → Follows g ks m ∧ g.Begins ks) → (m.run g r items).halted = false →
      Follows g (taken g r m ks items) (m.run g r items) ∧ g.Begins (taken g r m ks items)
  | [], _, _, hm, hgoes => hm hgoes
  | .illegal c span :: items, m, ks, hm, hgoes => by
    refine follows_taken g r items _ ks (fun hh => ?_) hgoes
    obtain ⟨hfollows, hbegins⟩ := hm hh
    exact ⟨hfollows.illegal r c span, hbegins⟩
  | .token t :: items, m, ks, hm, hgoes => by
    rw [taken]
    refine follows_taken g r items _ _ (fun hh => ?_) hgoes
    have hmatching : m.halted = false := by
      cases hhalted : m.halted with
      | false => rfl
      | true => rw [next_of_halted g r hhalted] at hh; exact hhalted.symm.trans hh
    obtain ⟨hfollows, hbegins⟩ := hm hmatching
    by_cases hk : g.Begins (ks ++ [t.kind])
    · rw [if_pos ((hfollows.takes_iff t).2 hk)]
      exact ⟨hfollows.advance r hk, hk⟩
    · rw [if_neg (mt (hfollows.takes_iff t).1 hk)]
      exact ⟨hfollows.restart r hk hh, g.begins_nil⟩

/-- Where a token was told: the items before it told what comes before, and on it the matcher told just this. -/
theorem exists_of_reports_eq (g : Grammar) (r : Recovery) {t : Token} {expected : List Kind} {es : List Diagnostic} :
    ∀ (items : List Item) (m : Matcher) (ds : List Diagnostic),
      m.reports g r items = ds ++ .unexpectedToken t expected :: es →
        ∃ pre post, items = pre ++ .token t :: post ∧ m.told g r pre = ds ∧
          (m.run g r pre).report (.token t) = [.unexpectedToken t expected]
  | [], m, ds, h => by
    have hmem : .unexpectedToken t expected ∈ m.finalReport := by
      rw [show m.finalReport = _ from h]
      simp
    rcases m.finalReport_eq_nil_or with hnil | hend
    · rw [hnil] at hmem
      cases hmem
    · rw [hend, List.mem_singleton] at hmem
      cases hmem
  | item :: items, m, ds, h => by
    rw [reports] at h
    have hlater : ∀ ds', (m.next g r item).reports g r items = ds' ++ .unexpectedToken t expected :: es →
        ds = m.report item ++ ds' → ∃ pre post, item :: items = pre ++ .token t :: post ∧ m.told g r pre = ds ∧
          (m.run g r pre).report (.token t) = [.unexpectedToken t expected] := by
      intro ds' hds' hds
      obtain ⟨pre, post, rfl, htold, hreport⟩ := exists_of_reports_eq g r items _ ds' hds'
      exact ⟨item :: pre, post, rfl, by rw [told, htold, hds], hreport⟩
    rcases map_item?_report m item with hnone | hone
    · rw [List.map_eq_nil_iff] at hnone
      rw [hnone] at h
      exact hlater ds h (by rw [hnone]; rfl)
    · obtain ⟨d, hd, hitem⟩ := List.map_eq_singleton_iff.1 hone
      rw [hd, List.singleton_append] at h
      cases ds with
      | nil =>
        obtain ⟨rfl, _⟩ := List.cons.inj h
        obtain rfl := Option.some.inj hitem
        exact ⟨[], items, rfl, rfl, hd⟩
      | cons d' ds =>
        rw [List.cons_append, List.cons.injEq] at h
        obtain ⟨rfl, h⟩ := h
        exact hlater ds h (by rw [hd]; rfl)

theorem report_eq_unexpectedToken {expected : List Kind} (h : m.report (.token t) = [.unexpectedToken t expected]) :
    m.halted = false ∧ m.takes t = false ∧ expected = m.cursor.expected := by
  cases m.fate t with
  | passed hh =>
    rw [report_of_halted hh] at h
    cases h
  | taken c hh hc =>
    rw [report_of_advance hh hc] at h
    cases h
  | refused hh hc =>
    rcases report_token m t with hnone | hone
    · rw [hnone] at h
      cases h
    · rw [hone] at h
      cases h
      exact ⟨hh, by simp [takes, hc], rfl⟩

theorem mem_finalReport {offset : Nat} {expected : List Kind} (h : .unexpectedEnd offset expected ∈ m.finalReport) :
    m.halted = false ∧ m.cursor.completed? = none ∧ expected = m.cursor.expected := by
  unfold finalReport at h
  cases hh : m.halted with
  | true => simp [hh] at h
  | false =>
    cases hc : m.cursor.completed? with
    | some p => simp [hh, hc] at h
    | none =>
      by_cases hq : m.quiet = 0
      · simp only [hh, hc, hq, Bool.false_eq_true, if_false, if_true, List.mem_singleton] at h
        cases h
        exact ⟨rfl, rfl, rfl⟩
      · simp [hh, hc, hq] at h

end Matcher

/-! ## Whole runs -/

/-- The kinds that a run on these items has matched since its last restart. -/
def pending (g : Grammar) (r : Recovery) (items : List Item) : List Kind := (Matcher.start g).taken g r [] items

/-- The kinds with which the run on these items can go on: a token that comes next is matched, as the log would say,
exactly if its kind is one of them.  Each is listed once, in the order in which the first templates that contribute them
are declared. -/
structure GoesOnWith (g : Grammar) (r : Recovery) (items : List Item) (ks : List Kind) : Prop where
  mem_iff : ∀ t : Token, t.kind ∈ ks ↔ ∃ n, .matched t n ∈ ((Matcher.start g).run g r items).note (.token t)
  nodup : ks.Nodup
  declared : ks.Pairwise fun k k' =>
    g.firstBeginning (pending g r items ++ [k]) < g.firstBeginning (pending g r items ++ [k'])
  first : pending g r items = [] → ks = g.firstKinds

section Pending

variable {g : Grammar} {r : Recovery} {items : List Item}

theorem follows_pending (h : ((Matcher.start g).run g r items).halted = false) :
    ((Matcher.start g).run g r items).Follows g (pending g r items) ∧ g.Begins (pending g r items) :=
  Matcher.follows_taken g r items _ [] (fun _ => ⟨Matcher.follows_start g, g.begins_nil⟩) h

theorem goesOnWith_expectedAfter (h : ((Matcher.start g).run g r items).halted = false) :
    GoesOnWith g r items (g.expectedAfter (pending g r items)) := by
  obtain ⟨hfollows, _⟩ := follows_pending h
  exact
    { mem_iff := fun t => by rw [Grammar.mem_expectedAfter, ← hfollows.takes_iff, Matcher.takes_iff_matched]
      nodup := g.nodup_expectedAfter _
      declared := g.pairwise_expectedAfter _
      first := fun hnil => by rw [hnil, Grammar.expectedAfter_nil] }

end Pending

/-- **What a diagnostic lists as expected is what would have been matched.**  For a refused token that is in its place,
by the run on the items before it: its own kind is not listed, and the list is empty exactly behind a template that no
other one extends.  For the end it is behind all items, and the list is never empty. -/
theorem expected_goes_on (g : Grammar) (r : Recovery) (items : List Item) :
    (∀ ds t ks es, diagnose g r items = ds ++ .unexpectedToken t ks :: es →
      ∃ pre post, items = pre ++ .token t :: post ∧ (Matcher.start g).told g r pre = ds ∧
        ((Matcher.start g).run g r pre).report (.token t) = [.unexpectedToken t ks] ∧
        GoesOnWith g r pre ks ∧ t.kind ∉ ks ∧ (ks = [] ↔ g.Closes (pending g r pre))) ∧
    ∀ offset ks, .unexpectedEnd offset ks ∈ diagnose g r items → GoesOnWith g r items ks ∧ ks ≠ [] := by
  constructor
  · intro ds t ks es h
    obtain ⟨pre, post, rfl, htold, hreport⟩ := Matcher.exists_of_reports_eq g r items _ ds h
    obtain ⟨hgoes, hrefused, rfl⟩ := Matcher.report_eq_unexpectedToken hreport
    obtain ⟨hfollows, hbegins⟩ := follows_pending hgoes
    refine ⟨pre, post, rfl, htold, hreport, ?_⟩
    rw [hfollows.cursor, Cursor.expected_after]
    refine ⟨goesOnWith_expectedAfter hgoes, ?_, Grammar.expectedAfter_eq_nil_iff hbegins⟩
    rw [Grammar.mem_expectedAfter, ← hfollows.takes_iff, hrefused]
    exact Bool.false_ne_true
  · intro offset ks h
    rw [diagnose, Matcher.reports_eq_told_append] at h
    have hfinal : .unexpectedEnd offset ks ∈ ((Matcher.start g).run g r items).finalReport :=
      (List.mem_append.1 h).resolve_left (Matcher.unexpectedEnd_not_mem_told g r _ items offset ks)
    obtain ⟨hgoes, hcompleted, rfl⟩ := Matcher.mem_finalReport hfinal
    obtain ⟨hfollows, hbegins⟩ := follows_pending hgoes
    rw [hfollows.cursor, Cursor.expected_after]
    refine ⟨goesOnWith_expectedAfter hgoes, fun hnil => ?_⟩
    obtain ⟨p, hp, hkinds, _⟩ := (Grammar.expectedAfter_eq_nil_iff hbegins).1 hnil
    rw [hfollows.cursor, (Cursor.completed?_after_eq_some_iff g _ p).2 ⟨hp, hkinds⟩] at hcompleted
    cases hcompleted

example : (diagnose .stock {} (scan "var 5")).map Diagnostic.expected = [[.intWord, .textWord]] := by decide +kernel

end Plantilla
