import Plantilla.Grammar.Stock
import Plantilla.Proofs.Following
/-!
# Segmentation — resynchronizing, without a counter

A run that resynchronizes cuts the kinds of its tokens into segments.  A token is *discarded* when the kinds since the
discard before it, its own included, begin no template; the next segment starts behind it.  That is said here of the
kinds alone (`IsDiscard`, `Discards`), with no cursor and no debt.  A discard is told if it is the first, or if enough
tokens stand between it and the one before (`isTold`), and the end of the items is judged by the last segment in the
same way.

`cuts` computes the discards from left to right, `Synced` says what a matcher's state is at a point of a segment: a
debt is what the segment lacks of `q` tokens.  `synchronize_eq_segmentation` is the equality of the two.
-/
namespace Plantilla

/-! ## Segments -/

/-- The kinds number `a + 1` to `d`, counted from one. -/
def segment (a d : Nat) (ks : List Kind) : List Kind := (ks.drop a).take (d - a)

/-- `d` is the first index after `a` such that the kinds from there to `d` begin no template. -/
structure IsDiscard (g : Grammar) (ks : List Kind) (a d : Nat) : Prop where
  after : a < d
  within : d ≤ ks.length
  refused : ¬ g.Begins (segment a d ks)
  first : ∀ e, a < e → e < d → g.Begins (segment a e ks)

/-- These are the discards after `a`, each the first after the one before it. -/
inductive Discards (g : Grammar) (ks : List Kind) : Nat → List Nat → Prop where
  | done {a : Nat} : (∀ d, ¬ IsDiscard g ks a d) → Discards g ks a []
  | next {a d : Nat} {ds : List Nat} : IsDiscard g ks a d → Discards g ks d ds → Discards g ks a (d :: ds)

/-- Each discard with the one before it, `a` standing before the first. -/
def stretches (a : Nat) (ds : List Nat) : List (Nat × Nat) := (a :: ds).zip ds

/-- A discard is told if there is none before it, or if `q` tokens or more stand between the two. -/
def isTold (q : Nat) (s : Nat × Nat) : Bool := s.1 = 0 || q ≤ s.2 - s.1 - 1

/-- The diagnostics of the discards that are told. -/
def refusals (g : Grammar) (q : Nat) (ts : List Token) (ss : List (Nat × Nat)) : List Diagnostic :=
  (ss.filter (isTold q)).filterMap fun s =>
    ts[s.2 - 1]?.map fun t => .unexpectedToken t (g.expectedAfter (segment s.1 (s.2 - 1) (ts.map Token.kind)))

/-! ## The discards, from left to right -/

/-- The discards among `ks`, the kinds `seg` having been matched since the discard `a`. -/
def cuts (g : Grammar) : Nat → List Kind → List Kind → List Nat
  | _, _, [] => []
  | a, seg, k :: ks =>
    if g.Begins (seg ++ [k]) then cuts g a (seg ++ [k]) ks
    else (a + seg.length + 1) :: cuts g (a + seg.length + 1) [] ks

theorem lt_of_mem_cuts (g : Grammar) : ∀ (ks : List Kind) (a : Nat) (seg : List Kind) (d : Nat),
    d ∈ cuts g a seg ks → a < d
  | [], _, _, _, h => by cases h
  | k :: ks, a, seg, d, h => by
    rw [cuts] at h
    split at h
    · exact lt_of_mem_cuts g ks a _ d h
    · rcases List.mem_cons.1 h with rfl | h
      · omega
      · have := lt_of_mem_cuts g ks _ _ d h
        omega

theorem getLastD_cuts_eq_iff (g : Grammar) (a : Nat) (seg ks : List Kind) :
    (cuts g a seg ks).getLastD a = a ↔ cuts g a seg ks = [] := by
  cases hds : cuts g a seg ks with
  | nil => exact ⟨fun _ => rfl, fun _ => rfl⟩
  | cons d ds =>
    have hmem : ds.getLastD d ∈ cuts g a seg ks := by rw [hds]; exact List.getLastD_mem_cons
    have hlt := lt_of_mem_cuts g ks a seg _ hmem
    rw [List.getLastD_cons]
    exact ⟨fun h => absurd h (by omega), fun h => by cases h⟩

section Cuts

variable {g : Grammar} {all seg ks : List Kind} {a d : Nat} {k : Kind}

theorem begins_segment (hall : all.drop a = seg ++ ks) (hseg : g.Begins seg) (hd : d ≤ a + seg.length) :
    g.Begins (segment a d all) := by
  rw [segment, hall, List.take_append_of_le_length (by omega)]
  exact hseg.of_prefix (List.take_prefix _ _)

theorem segment_concat (hall : all.drop a = seg ++ k :: ks) : segment a (a + seg.length + 1) all = seg ++ [k] := by
  rw [segment, hall, Nat.add_assoc, Nat.add_sub_cancel_left, List.take_length_add_append]
  rfl

theorem drop_discard (hall : all.drop a = seg ++ k :: ks) : all.drop (a + seg.length + 1) = ks := by
  rw [Nat.add_assoc, ← List.drop_drop, hall, List.drop_append, List.drop_of_length_le (by omega)]
  simp

theorem not_isDiscard (hall : all.drop a = seg) (hseg : g.Begins seg) : ¬ IsDiscard g all a d := by
  intro h
  have hlen : all.length - a = seg.length := by rw [← hall, List.length_drop]
  have hd := h.within
  have ha := h.after
  have hnil : all.drop a = seg ++ [] := by rw [hall, List.append_nil]
  exact h.refused (begins_segment hnil hseg (by omega))

/-- The one discard after `a` is the first kind that the segment cannot take. -/
theorem isDiscard_iff (hall : all.drop a = seg ++ k :: ks) (hseg : g.Begins seg) (hk : ¬ g.Begins (seg ++ [k])) :
    IsDiscard g all a d ↔ d = a + seg.length + 1 := by
  have hlen : all.length - a = seg.length + (ks.length + 1) := by
    rw [← List.length_drop, hall, List.length_append, List.length_cons]
  constructor
  · intro h
    rcases Nat.lt_trichotomy d (a + seg.length + 1) with hlt | heq | hgt
    · exact absurd (begins_segment hall hseg (by omega)) h.refused
    · exact heq
    · exact absurd (segment_concat hall ▸ h.first _ (by omega) hgt) hk
  · rintro rfl
    exact ⟨by omega, by omega, segment_concat hall ▸ hk, fun e _ he => begins_segment hall hseg (by omega)⟩

end Cuts

/-- **The discards are the cuts**, and there is no other list of them. -/
theorem discards_iff_eq_cuts (g : Grammar) (all : List Kind) : ∀ (ks : List Kind) (a : Nat) (seg : List Kind),
    all.drop a = seg ++ ks → g.Begins seg → ∀ ds, Discards g all a ds ↔ ds = cuts g a seg ks
  | [], a, seg, hall, hseg, ds => by
    rw [List.append_nil] at hall
    constructor
    · intro h
      cases h with
      | done => rfl
      | next hd => exact absurd hd (not_isDiscard hall hseg)
    · rintro rfl
      exact .done fun d => not_isDiscard hall hseg
  | k :: ks, a, seg, hall, hseg, ds => by
    rw [cuts]
    by_cases hk : g.Begins (seg ++ [k])
    · rw [if_pos hk]
      exact discards_iff_eq_cuts g all ks a (seg ++ [k]) (by rw [hall, List.append_cons]) hk ds
    · rw [if_neg hk]
      have ih := discards_iff_eq_cuts g all ks (a + seg.length + 1) [] (drop_discard hall) g.begins_nil
      constructor
      · intro h
        cases h with
        | done hno => exact absurd ((isDiscard_iff hall hseg hk).2 rfl) (hno _)
        | next hd hds =>
          obtain rfl := (isDiscard_iff hall hseg hk).1 hd
          rw [(ih _).1 hds]
      · rintro rfl
        exact .next ((isDiscard_iff hall hseg hk).2 rfl) ((ih _).2 rfl)

example : cuts Grammar.stock 0 [] [.number, .varWord, .number, .varWord, .intWord, .number] = [1, 3, 6] := by decide

/-! ## A matcher inside a segment -/

/-- The state of a matcher that resynchronizes, `seg` having been matched since the discard `a`. -/
structure Synced (g : Grammar) (q a : Nat) (seg : List Kind) (m : Matcher) : Prop extends m.Follows g seg where
  quiet : m.quiet = if a = 0 then 0 else q - seg.length

namespace Synced

variable {g : Grammar} {q a : Nat} {seg : List Kind} {m : Matcher} {t : Token}

theorem start (g : Grammar) (q : Nat) : Synced g q 0 [] (Matcher.start g) := ⟨Matcher.follows_start g, rfl⟩

theorem skip (h : Synced g q a seg m) (c : Char) (span : Span) :
    Synced g q a seg (m.next g ⟨.synchronize, q⟩ (.illegal c span)) :=
  ⟨h.toFollows.illegal _ c span, h.quiet⟩

theorem take (h : Synced g q a seg m) (hk : g.Begins (seg ++ [t.kind])) :
    Synced g q a (seg ++ [t.kind]) (m.next g ⟨.synchronize, q⟩ (.token t)) := by
  refine ⟨h.toFollows.advance _ hk, ?_⟩
  rw [h.toFollows.quiet_next _ hk, h.quiet, List.length_append, List.length_singleton]
  split <;> omega

theorem refuse (h : Synced g q a seg m) (hk : ¬ g.Begins (seg ++ [t.kind])) :
    Synced g q (a + seg.length + 1) [] (m.next g ⟨.synchronize, q⟩ (.token t)) := by
  rw [h.toFollows.next_of_not_begins _ hk]
  unfold Matcher.afterRefusal
  refine ⟨⟨(Cursor.after_nil g).symm, ?_⟩, rfl⟩
  split <;> exact h.halted

theorem quiet_eq_zero_iff (h : Synced g q a seg m) : m.quiet = 0 ↔ a = 0 ∨ q ≤ seg.length := by
  rw [h.quiet]
  split <;> simp_all [Nat.sub_eq_zero_iff_le]

theorem report_refuse (h : Synced g q a seg m) (hk : ¬ g.Begins (seg ++ [t.kind])) :
    m.report (.token t)
      = if isTold q (a, a + seg.length + 1) then [.unexpectedToken t (g.expectedAfter seg)] else [] := by
  have hiff : m.quiet = 0 ↔ isTold q (a, a + seg.length + 1) = true := by
    rw [h.quiet_eq_zero_iff]
    simp only [isTold, Bool.or_eq_true, decide_eq_true_eq]
    rw [show a + seg.length + 1 - a - 1 = seg.length by omega]
  rw [h.toFollows.report_of_not_begins hk]
  exact if_congr hiff rfl rfl

end Synced

/-! ## Whole runs -/

/-- **What a resynchronizing run tells of the tokens**: the discards still ahead that are told. -/
theorem told_grammatical (g : Grammar) (q : Nat) (ts : List Token) : ∀ (items : List Item) (m : Matcher) (a : Nat)
    (seg : List Kind), Synced g q a seg m → ts.drop (a + seg.length) = Item.tokens items →
    (ts.map Token.kind).drop a = seg ++ Item.kinds items →
      (m.told g ⟨.synchronize, q⟩ items).filter Diagnostic.isGrammatical
        = refusals g q ts (stretches a (cuts g a seg (Item.kinds items)))
  | [], _, _, _, _, _, _ => rfl
  | .illegal c span :: items, m, a, seg, hm, hts, hks =>
    told_grammatical g q ts items _ a seg (hm.skip c span) hts hks
  | .token t :: items, m, a, seg, hm, hts, hks => by
    have hts' : ts.drop (a + seg.length) = t :: Item.tokens items := hts
    have hrest : ts.drop (a + seg.length + 1) = Item.tokens items := by rw [← List.tail_drop, hts']; rfl
    rw [Item.kinds_token, cuts, Matcher.told, List.filter_append]
    by_cases hk : g.Begins (seg ++ [t.kind])
    · rw [if_pos hk, hm.report_of_begins hk]
      refine told_grammatical g q ts items _ a _ (hm.take hk) ?_ ?_
      · rw [List.length_append, List.length_singleton, ← Nat.add_assoc, hrest]
      · rw [hks, Item.kinds_token, List.append_cons]
    · have ih := told_grammatical g q ts items _ (a + seg.length + 1) [] (hm.refuse hk) hrest
        (by rw [← List.map_drop, hrest]; rfl)
      have hget : ts[a + seg.length]? = some t := by
        rw [← Nat.add_zero (a + seg.length), ← List.getElem?_drop, hts']; rfl
      have hseg : segment a (a + seg.length) (ts.map Token.kind) = seg := by
        rw [segment, hks, Nat.add_sub_cancel_left, List.take_left]
      rw [if_neg hk, hm.report_refuse hk, ih]
      show _ = refusals g q ts ((a, a + seg.length + 1) :: stretches (a + seg.length + 1) _)
      unfold refusals
      by_cases htold : isTold q (a, a + seg.length + 1) = true
      · rw [if_pos htold, List.filter_cons_of_pos htold, List.filterMap_cons]
        simp only [Nat.add_sub_cancel, hget, hseg, Option.map_some]
        rfl
      · rw [if_neg htold, List.filter_cons_of_neg htold]
        rfl

/-- The state after a resynchronizing run is that of its last segment. -/
theorem synced_run (g : Grammar) (q : Nat) : ∀ (items : List Item) (m : Matcher) (all : List Kind) (a : Nat)
    (seg : List Kind), Synced g q a seg m → all.drop a = seg ++ Item.kinds items →
      let last := (cuts g a seg (Item.kinds items)).getLastD a
      Synced g q last (all.drop last) (m.run g ⟨.synchronize, q⟩ items)
  | [], m, all, a, seg, hm, hall => by
    show Synced g q a (all.drop a) m
    rw [hall, Item.kinds_nil, List.append_nil]
    exact hm
  | .illegal c span :: items, m, all, a, seg, hm, hall => synced_run g q items _ all a seg (hm.skip c span) hall
  | .token t :: items, m, all, a, seg, hm, hall => by
    rw [Item.kinds_token] at hall
    rw [Item.kinds_token, cuts]
    by_cases hk : g.Begins (seg ++ [t.kind])
    · rw [if_pos hk]
      exact synced_run g q items _ all a _ (hm.take hk) (by rw [hall, List.append_cons])
    · rw [if_neg hk, List.getLastD_cons]
      exact synced_run g q items _ all _ [] (hm.refuse hk) (drop_discard hall)

/-- **Resynchronizing is segmentation.**  The kinds of the tokens fix the list of discards.  The template matched at
the end is the one whose kinds are those after the last discard; the grammatical diagnostics are those of the discards
that are told, in order, and then the one of the end, if no template is matched and there was no discard or `q` tokens
or more follow the last one. -/
theorem synchronize_eq_segmentation (g : Grammar) (q : Nat) (items : List Item) :
    ∃ ds, (∀ ds', Discards g (Item.kinds items) 0 ds' ↔ ds' = ds) ∧
      (∀ p, (recognize g ⟨.synchronize, q⟩ items).matched = some p ↔
        p ∈ g.productions ∧ p.kinds = (Item.kinds items).drop (ds.getLastD 0) ∧
          (Item.kinds items).drop (ds.getLastD 0) ≠ []) ∧
      (diagnose g ⟨.synchronize, q⟩ items).filter Diagnostic.isGrammatical
        = refusals g q (Item.tokens items) (stretches 0 ds) ++
          if (recognize g ⟨.synchronize, q⟩ items).matched = none ∧
            (ds = [] ∨ q ≤ ((Item.kinds items).drop (ds.getLastD 0)).length)
          then [.unexpectedEnd ((items.getLast?.map fun item => item.span.stop).getD 0)
            (g.expectedAfter ((Item.kinds items).drop (ds.getLastD 0)))]
          else [] := by
  have hend := synced_run g q items _ (Item.kinds items) 0 [] (.start g q) rfl
  refine ⟨cuts g 0 [] (Item.kinds items), discards_iff_eq_cuts g _ _ 0 [] rfl g.begins_nil, fun p => ?_, ?_⟩
  · rw [recognize, hend.toFollows.matched_finish]
    constructor
    · rintro ⟨hp, hkinds⟩
      exact ⟨hp, hkinds, hkinds ▸ Grammar.kinds_ne_nil hp⟩
    · rintro ⟨hp, hkinds, _⟩
      exact ⟨hp, hkinds⟩
  · have htold := told_grammatical g q (Item.tokens items) items _ 0 [] (.start g q) rfl rfl
    have hfinal := hend.toFollows.finalReport_eq
    simp only [hend.quiet_eq_zero_iff, getLastD_cuts_eq_iff, Matcher.stop_run] at hfinal
    rw [diagnose, Matcher.reports_eq_told_append, List.filter_append, htold, recognize, hfinal]
    congr 1
    split <;> rfl

end Plantilla
