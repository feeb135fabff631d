import Plantilla.Proofs.Draining
/-!
# Cascading — one refusal does not bring many reports

A run that resynchronizes pays for what it tells.  A refusal that is told costs `q + 1` tokens: its own and the `q` that
it owes from then on.  So at any place of a run the grammatical errors are paid for by the tokens seen and those still
owed (`Solvent`), and a silent refusal, which renews the debt, only adds to what is paid.  The end costs a token less, as
it is none itself, and that is what the one error too many in the bound makes up for (`grammaticalErrors_le`).

The bound is met at every multiple of `q + 1`: a kind that no template takes, again and again, with `q` kinds between
that begin a template (`exists_errors_eq`).
-/
namespace Plantilla
namespace Matcher

/-! ## What an error costs -/

/-- Each grammatical error is paid for by `q + 1` tokens, seen or still owed. -/
structure Solvent (q : Nat) (m : Matcher) : Prop where
  paid : m.grammaticalErrors * (q + 1) ≤ m.tokens + m.quiet
  quiet : m.quiet ≤ q

namespace Solvent

variable {q : Nat} {m : Matcher}

theorem start (g : Grammar) (q : Nat) : (Matcher.start g).Solvent q :=
  ⟨by simp [Matcher.start], Nat.zero_le q⟩

/-- A refusal is told only where nothing is owed, so that one token and a debt of `q` pay for it. -/
theorem refusal (hm : m.Solvent q) :
    (if m.quiet = 0 then m.grammaticalErrors + 1 else m.grammaticalErrors) * (q + 1) ≤ m.tokens + (q + 1) := by
  have hpaid := hm.paid
  have hquiet := hm.quiet
  by_cases hq : m.quiet = 0
  · rw [if_pos hq, Nat.succ_mul]
    omega
  · rw [if_neg hq]
    omega

/-- **A step keeps a matcher solvent.**  A token taken is seen and no longer owed, a token refused is seen and the debt
is renewed, and an error is told only where nothing is owed. -/
theorem next (hm : m.Solvent q) (g : Grammar) (item : Item) : (m.next g ⟨.synchronize, q⟩ item).Solvent q := by
  have hpaid := hm.paid
  have hquiet := hm.quiet
  cases item with
  | illegal c span => exact ⟨hpaid, hquiet⟩
  | token t =>
    cases m.fate t with
    | passed hh =>
      rw [next_of_halted g _ hh]
      refine ⟨?_, hquiet⟩
      show m.grammaticalErrors * (q + 1) ≤ m.tokens + 1 + m.quiet
      omega
    | taken c hh hc =>
      rw [next_of_advance g _ hh hc]
      refine ⟨?_, Nat.le_trans (Nat.sub_le _ _) hquiet⟩
      show m.grammaticalErrors * (q + 1) ≤ m.tokens + 1 + (m.quiet - 1)
      omega
    | refused hh hc =>
      rw [next_of_refusal g _ hh hc, afterRefusal_synchronize]
      exact ⟨hm.refusal.trans_eq (Nat.add_right_comm m.tokens q 1), Nat.le_refl q⟩

theorem run (g : Grammar) : ∀ (items : List Item) {m : Matcher}, m.Solvent q →
    (m.run g ⟨.synchronize, q⟩ items).Solvent q
  | [], _, hm => hm
  | item :: items, _, hm => run g items (hm.next g item)

/-- The end is told only where nothing is owed, so that all but the last error are paid for by tokens seen. -/
theorem finish (hm : m.Solvent q) : m.finish.grammaticalErrors * (q + 1) ≤ m.tokens + (q + 1) := by
  have hpaid := hm.paid
  have hquiet := hm.quiet
  unfold Matcher.finish
  cases m.halted with
  | true => exact Nat.le_trans hpaid (by omega)
  | false =>
    cases m.cursor.completed? with
    | some p => exact Nat.le_trans hpaid (by omega)
    | none => exact hm.refusal

end Solvent
end Matcher

/-- **Errors do not come in cascades.**  A run that resynchronizes over `n` tokens tells at most one grammatical error
and another for every `q + 1` tokens, the one of the end included. -/
theorem grammaticalErrors_le (g : Grammar) (q : Nat) (items : List Item) :
    let n := (Item.tokens items).length
    let errors := ((diagnose g ⟨.synchronize, q⟩ items).filter Diagnostic.isGrammatical).length
    (recognize g ⟨.synchronize, q⟩ items).grammaticalErrors = errors ∧ errors ≤ 1 + n / (q + 1) ∧
      (errors - 1) * (q + 1) ≤ n := by
  intro n errors
  have hcount : (recognize g ⟨.synchronize, q⟩ items).grammaticalErrors = errors :=
    grammaticalErrors_recognize g ⟨.synchronize, q⟩ items
  have htokens : ((Matcher.start g).run g ⟨.synchronize, q⟩ items).tokens = n := by
    rw [Matcher.tokens_run]
    exact Nat.zero_add n
  have hpaid := ((Matcher.Solvent.start g q).run g items).finish
  have hfinish : ((Matcher.start g).run g ⟨.synchronize, q⟩ items).finish.grammaticalErrors = errors := hcount
  rw [htokens, hfinish] at hpaid
  have hbound : (errors - 1) * (q + 1) ≤ n := by
    rw [Nat.sub_mul, Nat.one_mul]
    omega
  have hquotient : errors - 1 ≤ n / (q + 1) := (Nat.le_div_iff_mul_le (Nat.succ_pos q)).2 hbound
  exact ⟨hcount, by omega, hbound⟩

/-! ## The bound is met -/

/-- Some token of a kind. -/
def Token.ofKind (k : Kind) : Token := make k (.text "") ⟨0, 0⟩

def Item.ofKinds (ks : List Kind) : List Item := ks.map fun k => .token (.ofKind k)

theorem Matcher.run_append (g : Grammar) (r : Recovery) (m : Matcher) (items later : List Item) :
    m.run g r (items ++ later) = (m.run g r items).run g r later := List.foldl_append

theorem Item.length_tokens_ofKinds (ks : List Kind) : (Item.tokens (ofKinds ks)).length = ks.length := by
  simp [Item.tokens, ofKinds, List.filterMap_map, Function.comp_def, Item.token?]

theorem Item.ofKinds_append (ks ls : List Kind) : ofKinds (ks ++ ls) = ofKinds ks ++ ofKinds ls := List.map_append

namespace Synced

open Item (ofKinds)

variable {g : Grammar} {q a : Nat} {seg : List Kind} {m : Matcher} {k : Kind}

theorem run_take : ∀ (ks seg : List Kind) (m : Matcher), Synced g q a seg m → g.Begins (seg ++ ks) →
    Synced g q a (seg ++ ks) (m.run g ⟨.synchronize, q⟩ (ofKinds ks)) ∧
      (m.run g ⟨.synchronize, q⟩ (ofKinds ks)).grammaticalErrors = m.grammaticalErrors
  | [], seg, m, hm, _ => by
    rw [List.append_nil]
    exact ⟨hm, rfl⟩
  | k :: ks, seg, m, hm, hks => by
    rw [List.append_cons] at hks ⊢
    have hk : g.Begins (seg ++ [(Token.ofKind k).kind]) := hks.of_prefix (List.prefix_append _ _)
    obtain ⟨hend, herrors⟩ := run_take ks _ _ (hm.take hk) hks
    refine ⟨hend, herrors.trans ?_⟩
    rw [hm.toFollows.next_of_begins _ hk]

/-- A kind refused where nothing is owed is an error more. -/
theorem run_refuse (hm : Synced g q a seg m) (hquiet : m.quiet = 0) (hk : ¬ g.Begins (seg ++ [k])) :
    Synced g q (a + seg.length + 1) [] (m.run g ⟨.synchronize, q⟩ (ofKinds [k])) ∧
      (m.run g ⟨.synchronize, q⟩ (ofKinds [k])).grammaticalErrors = m.grammaticalErrors + 1 := by
  refine ⟨hm.refuse hk, ?_⟩
  show (m.next g ⟨.synchronize, q⟩ (.token (.ofKind k))).grammaticalErrors = _
  rw [hm.toFollows.next_of_not_begins _ hk, Matcher.afterRefusal_synchronize]
  exact if_pos hquiet

/-- Behind a discard, as many kinds as are owed and then one that is refused are an error more. -/
theorem run_round (hm : Synced g seg.length a [] m) (hseg : g.Begins seg) (hk : ¬ g.Begins (seg ++ [k])) :
    ∃ a' ≠ 0, Synced g seg.length a' [] (m.run g ⟨.synchronize, seg.length⟩ (ofKinds (seg ++ [k]))) ∧
      (m.run g ⟨.synchronize, seg.length⟩ (ofKinds (seg ++ [k]))).grammaticalErrors = m.grammaticalErrors + 1 := by
  obtain ⟨htaken, herrors⟩ := run_take seg [] m hm hseg
  have hquiet := htaken.quiet_eq_zero_iff.2 (.inr (Nat.le_refl _))
  obtain ⟨hend, hmore⟩ := htaken.run_refuse hquiet hk
  rw [Item.ofKinds_append, Matcher.run_append]
  exact ⟨_, Nat.succ_ne_zero _, hend, hmore.trans (congrArg (· + 1) herrors)⟩

theorem run_rounds (hseg : g.Begins seg) (hk : ¬ g.Begins (seg ++ [k])) : ∀ (n a : Nat) (m : Matcher),
    a ≠ 0 → Synced g seg.length a [] m →
      let m' := m.run g ⟨.synchronize, seg.length⟩ (ofKinds (List.replicate n (seg ++ [k])).flatten)
      (∃ a' ≠ 0, Synced g seg.length a' [] m') ∧ m'.grammaticalErrors = m.grammaticalErrors + n
  | 0, a, m, ha, hm => ⟨⟨a, ha, hm⟩, rfl⟩
  | n + 1, a, m, _, hm => by
    obtain ⟨a', ha', hround, hmore⟩ := hm.run_round hseg hk
    obtain ⟨hend, herrors⟩ := run_rounds hseg hk n a' _ ha' hround
    rw [List.replicate_succ, List.flatten_cons, Item.ofKinds_append, Matcher.run_append]
    refine ⟨hend, herrors.trans ?_⟩
    rw [hmore]
    omega

/-- An end inside a template, where nothing is owed, is an error more. -/
theorem errors_finish (hm : Synced g q a seg m) (hopen : ∀ p ∈ g.productions, p.kinds ≠ seg) (hquiet : m.quiet = 0) :
    m.finish.grammaticalErrors = m.grammaticalErrors + 1 := by
  have hnone : m.finish.matched = none := Option.eq_none_iff_forall_ne_some.2 fun p hp =>
    hopen p ((hm.toFollows.matched_finish p).1 hp).1 ((hm.toFollows.matched_finish p).1 hp).2
  have hcount := Matcher.count_finish .grammatical m
  rw [hm.toFollows.finalReport_eq, if_pos ⟨hnone, hquiet⟩] at hcount
  exact hcount

end Synced

/-- **The bound is met.**  A kind that no template has is refused wherever it comes.  With so many kinds between as are
owed, which begin a template and make none, every one of them is told, and the end too. -/
theorem exists_errors_eq {g : Grammar} {seg : List Kind} {k : Kind} (hseg : g.Begins seg)
    (hopen : ∀ p ∈ g.productions, p.kinds ≠ seg) (hk : ∀ p ∈ g.productions, k ∉ p.kinds) (n : Nat) :
    ∃ items, (Item.tokens items).length = (n + 1) * (seg.length + 1) ∧
      (recognize g ⟨.synchronize, seg.length⟩ items).grammaticalErrors = 1 + (n + 1) := by
  have hrefused : ∀ ks, ¬ g.Begins (ks ++ [k]) := by
    rintro ks ⟨p, hp, hbegins⟩
    exact hk p hp (hbegins.subset (by simp))
  let rounds := (List.replicate n (seg ++ [k])).flatten
  have hrounds : rounds.length = n * (seg.length + 1) := by
    rw [List.length_flatten, List.map_replicate, List.sum_replicate_nat, List.length_append, List.length_singleton]
  have hlen : ([k] ++ rounds ++ seg).length = (n + 1) * (seg.length + 1) := by
    rw [List.length_append, List.length_append, hrounds, List.length_singleton, Nat.succ_mul]
    omega
  refine ⟨Item.ofKinds ([k] ++ rounds ++ seg), (Item.length_tokens_ofKinds _).trans hlen, ?_⟩
  obtain ⟨hfirst, hone⟩ := (Synced.start g seg.length).run_refuse rfl (hrefused [])
  obtain ⟨⟨a, _, hmiddle⟩, hmany⟩ := Synced.run_rounds hseg (hrefused seg) n _ _ (Nat.succ_ne_zero _) hfirst
  obtain ⟨hlast, hsame⟩ := Synced.run_take seg [] _ hmiddle hseg
  have herrors := hlast.errors_finish hopen (hlast.quiet_eq_zero_iff.2 (.inr (Nat.le_refl _)))
  rw [hsame, hmany, hone] at herrors
  rw [recognize, Item.ofKinds_append, Item.ofKinds_append, Matcher.run_append, Matcher.run_append, herrors]
  show 0 + 1 + n + 1 = _
  omega

/-- So it is met by the stock grammar, for every debt that its longest template can pay and still go on. -/
theorem exists_errors_eq_stock {q : Nat} (hq : q < 19) (n : Nat) :
    ∃ items, (Item.tokens items).length = (n + 1) * (q + 1) ∧
      (recognize .stock ⟨.synchronize, q⟩ items).grammaticalErrors = 1 + (n + 1) := by
  have hmain : ∀ q < 19, ∃ p ∈ Grammar.stock.productions, (p.kinds.take q).length = q ∧
      ∀ p' ∈ Grammar.stock.productions, p'.kinds ≠ p.kinds.take q := by decide
  have hquoted : ∀ p ∈ Grammar.stock.productions, Kind.quoted ∉ p.kinds := by decide
  obtain ⟨p, hp, hlen, hopen⟩ := hmain q hq
  have hmet := exists_errors_eq ⟨p, hp, List.take_prefix q p.kinds⟩ hopen hquoted n
  rwa [hlen] at hmet

end Plantilla
