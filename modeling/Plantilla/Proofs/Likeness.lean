import Mathlib.Data.List.Forall2
import Plantilla.Grammar.Stock
import Plantilla.Proofs.Accounting
/-!
# Likeness — a matcher sees kinds and nothing else

Of a token a matcher looks at the kind alone, and at nothing of an illegal character.  So two streams of items with the
same kinds at the same places have the same outcome (`recognize_like`), and their diagnostics are of the same sort at
each place, about related items (`diagnose_like`).  Where an item ends is carried along, and shows only in a diagnostic of
the end.

An item can occur twice in a stream, so which one a diagnostic is about is said by its place.  The places of a run
(`Matcher.places`) are computed with it, rise, and name its items (`map_item?_diagnose_places`); and they too depend on
the kinds alone (`only_kinds_seen`).
-/
namespace Plantilla

/-! ## Lists side by side -/

section Lists

variable {α β γ : Type}

theorem forall₂_trans {R : α → β → Prop} {S : β → γ → Prop} {T : α → γ → Prop} (h : ∀ a b c, R a b → S b c → T a c) :
    ∀ {as : List α} {bs : List β} {cs : List γ}, List.Forall₂ R as bs → List.Forall₂ S bs cs → List.Forall₂ T as cs
  | _, _, _, .nil, .nil => .nil
  | _, _, _, .cons hr hrs, .cons hs hss => .cons (h _ _ _ hr hs) (forall₂_trans h hrs hss)

theorem forall₂_eq_iff {f : α → γ} {f' : β → γ} {as : List α} {bs : List β} :
    List.Forall₂ (fun a b => f a = f' b) as bs ↔ as.map f = bs.map f' := by
  rw [← List.forall₂_eq_eq_eq, List.forall₂_map_left_iff, List.forall₂_map_right_iff]

end Lists

/-! ## Items that look the same -/

/-- What a matcher sees of an item: the kind of a token. -/
def Item.kind? : Item → Option Kind
  | .token t => some t.kind
  | .illegal _ _ => none

/-- Diagnostics of one sort, with the same kinds expected, and about items that are related. -/
inductive Diagnostic.Like (R : Item → Item → Prop) : Diagnostic → Diagnostic → Prop
  | illegalCharacter {c c' : Char} {span span' : Span} : R (.illegal c span) (.illegal c' span') →
      Like R (.illegalCharacter c span) (.illegalCharacter c' span')
  | unexpectedToken {t t' : Token} {expected : List Kind} : R (.token t) (.token t') →
      Like R (.unexpectedToken t expected) (.unexpectedToken t' expected)
  | unexpectedEnd {offset offset' : Nat} {expected : List Kind} :
      Like R (.unexpectedEnd offset expected) (.unexpectedEnd offset' expected)

namespace Matcher

/-- The matcher, with its last item ending elsewhere. -/
def stoppedAt (m : Matcher) (stop : Nat) : Matcher := { m with stop := stop }

section Step

variable {item item' : Item} (h : item.kind? = item'.kind?)
include h

theorem next_stoppedAt (g : Grammar) (r : Recovery) (m : Matcher) (stop : Nat) :
    (m.stoppedAt stop).next g r item' = (m.next g r item).stoppedAt item'.span.stop := by
  cases item with
  | illegal c span =>
    cases item' with
    | illegal c' span' => rfl
    | token t' => cases h
  | token t =>
    cases item' with
    | illegal c' span' => cases h
    | token t' =>
      have hkind : t'.kind = t.kind := (Option.some.inj h).symm
      simp only [next, stoppedAt, hkind]
      cases m.halted with
      | true => rfl
      | false =>
        cases m.cursor.advance? t.kind with
        | some c => rfl
        | none =>
          simp only [afterRefusal, Bool.false_eq_true, if_false]
          by_cases hq : m.quiet = 0 <;> cases r.mode <;> simp [hq, Item.span]

theorem report_stoppedAt {R : Item → Item → Prop} (hR : R item item') (m : Matcher) (stop : Nat) :
    List.Forall₂ (Diagnostic.Like R) (m.report item) ((m.stoppedAt stop).report item') := by
  cases item with
  | illegal c span =>
    cases item' with
    | illegal c' span' => exact .cons (.illegalCharacter hR) .nil
    | token t' => cases h
  | token t =>
    cases item' with
    | illegal c' span' => cases h
    | token t' =>
      have hkind : t'.kind = t.kind := (Option.some.inj h).symm
      simp only [report, stoppedAt, hkind]
      cases m.halted with
      | true => exact .nil
      | false =>
        cases m.cursor.advance? t.kind with
        | some c => exact .nil
        | none =>
          by_cases hq : m.quiet = 0
          · simp only [hq, Bool.false_eq_true, if_false, if_true]
            exact .cons (.unexpectedToken hR) .nil
          · simp only [hq, Bool.false_eq_true, if_false]
            exact .nil

end Step

theorem finalReport_stoppedAt (R : Item → Item → Prop) (m : Matcher) (stop : Nat) :
    List.Forall₂ (Diagnostic.Like R) m.finalReport (m.stoppedAt stop).finalReport := by
  unfold finalReport stoppedAt
  cases m.halted with
  | true => exact .nil
  | false =>
    cases m.cursor.completed? with
    | some p => exact .nil
    | none =>
      by_cases hq : m.quiet = 0
      · simp only [hq, Bool.false_eq_true, if_false, if_true]
        exact .cons .unexpectedEnd .nil
      · simp only [hq, Bool.false_eq_true, if_false]
        exact .nil

/-! ## Whole runs -/

theorem run_stoppedAt (g : Grammar) (r : Recovery) : ∀ (items items' : List Item) (m : Matcher) (stop : Nat),
    items.map Item.kind? = items'.map Item.kind? →
      ∃ stop', (m.stoppedAt stop).run g r items' = (m.run g r items).stoppedAt stop'
  | [], [], _, stop, _ => ⟨stop, rfl⟩
  | item :: items, item' :: items', m, stop, h => by
    obtain ⟨hhead, htail⟩ := List.cons.inj h
    obtain ⟨stop', hrun⟩ := run_stoppedAt g r items items' (m.next g r item) item'.span.stop htail
    refine ⟨stop', ?_⟩
    show ((m.stoppedAt stop).next g r item').run g r items' = _
    rw [next_stoppedAt hhead, hrun]
    rfl

theorem reports_stoppedAt {R : Item → Item → Prop} (hR : ∀ item item', R item item' → item.kind? = item'.kind?)
    (g : Grammar) (r : Recovery) {items items' : List Item} (h : List.Forall₂ R items items') :
    ∀ (m : Matcher) (stop : Nat),
      List.Forall₂ (Diagnostic.Like R) (m.reports g r items) ((m.stoppedAt stop).reports g r items') := by
  induction h with
  | nil => exact finalReport_stoppedAt R
  | cons hhead _ ih =>
    intro m stop
    rw [reports, reports, next_stoppedAt (hR _ _ hhead)]
    exact List.rel_append (report_stoppedAt (hR _ _ hhead) hhead m stop) (ih _ _)

end Matcher

/-- **Streams of the same kinds have the same outcome.** -/
theorem recognize_like (g : Grammar) (r : Recovery) {items items' : List Item}
    (h : items.map Item.kind? = items'.map Item.kind?) : recognize g r items' = recognize g r items := by
  obtain ⟨stop, hrun⟩ := Matcher.run_stoppedAt g r items items' (Matcher.start g) 0 h
  have hstart : (Matcher.start g).stoppedAt 0 = Matcher.start g := rfl
  rw [hstart] at hrun
  rw [recognize, recognize, hrun]
  rfl

/-- **And like diagnostics**, about items at the same places. -/
theorem diagnose_like {R : Item → Item → Prop} (hR : ∀ item item', R item item' → item.kind? = item'.kind?)
    (g : Grammar) (r : Recovery) {items items' : List Item} (h : List.Forall₂ R items items') :
    List.Forall₂ (Diagnostic.Like R) (diagnose g r items) (diagnose g r items') :=
  Matcher.reports_stoppedAt hR g r h (Matcher.start g) 0

/-! ## The same places -/

namespace Matcher

/-- The places of the items that a run tells of, the first item standing at `n`; the end stands behind the last. -/
def places (g : Grammar) (r : Recovery) : Nat → Matcher → List Item → List Nat
  | n, m, [] => m.finalReport.map fun _ => n
  | n, m, item :: items => (m.report item).map (fun _ => n) ++ places g r (n + 1) (m.next g r item) items

theorem item?_of_mem_report {m : Matcher} {item : Item} {d : Diagnostic} (h : d ∈ m.report item) :
    d.item? = some item := by
  have hmem := List.mem_map_of_mem (f := Diagnostic.item?) h
  rcases map_item?_report m item with hnone | hone
  · rw [hnone] at hmem
    cases hmem
  · rw [hone] at hmem
    exact List.mem_singleton.1 hmem

theorem item?_of_mem_finalReport {m : Matcher} {d : Diagnostic} (h : d ∈ m.finalReport) : d.item? = none := by
  rcases finalReport_eq_nil_or m with hnil | hend
  · rw [hnil] at h
    cases h
  · rw [hend] at h
    rw [List.mem_singleton.1 h]
    rfl

/-- **The places name the items that are told of**, in the stream whose part from place `n` on the run takes. -/
theorem map_item?_reports (g : Grammar) (r : Recovery) (all : List Item) : ∀ (items : List Item) (n : Nat) (m : Matcher),
    all.drop n = items → (m.reports g r items).map Diagnostic.item? = (places g r n m items).map (all[·]?)
  | [], n, m, h => by
    have hbehind : all[n]? = none := List.getElem?_eq_none (List.drop_eq_nil_iff.1 h)
    rw [reports, places, List.map_map]
    apply List.map_congr_left
    intro d hd
    rw [item?_of_mem_finalReport hd, Function.comp_apply, hbehind]
  | item :: items, n, m, h => by
    have hplace : all[n]? = some item := by rw [← Nat.add_zero n, ← List.getElem?_drop, h]; rfl
    have hrest : all.drop (n + 1) = items := by rw [← List.tail_drop, h]; rfl
    rw [reports, places, List.map_append, List.map_append, map_item?_reports g r all items _ _ hrest, List.map_map]
    congr 1
    apply List.map_congr_left
    intro d hd
    rw [item?_of_mem_report hd, Function.comp_apply, hplace]

theorem bounds_of_mem_places (g : Grammar) (r : Recovery) : ∀ (items : List Item) (n : Nat) (m : Matcher) (i : Nat),
    i ∈ places g r n m items → n ≤ i ∧ i ≤ n + items.length
  | [], n, m, i, h => by
    obtain ⟨_, _, rfl⟩ := List.mem_map.1 h
    exact ⟨Nat.le_refl _, Nat.le_refl _⟩
  | item :: items, n, m, i, h => by
    rw [List.length_cons]
    rcases List.mem_append.1 h with h | h
    · obtain ⟨_, _, rfl⟩ := List.mem_map.1 h
      exact ⟨Nat.le_refl _, Nat.le_add_right _ _⟩
    · have := bounds_of_mem_places g r items _ _ i h
      omega

theorem length_report (m : Matcher) (item : Item) : (m.report item).length = 0 ∨ (m.report item).length = 1 := by
  rw [← List.length_map Diagnostic.item?]
  rcases map_item?_report m item with h | h <;> rw [h] <;> simp

/-- **The places rise**: an item is told of once at most, and the end last. -/
theorem pairwise_places (g : Grammar) (r : Recovery) : ∀ (items : List Item) (n : Nat) (m : Matcher),
    (places g r n m items).Pairwise (· < ·)
  | [], n, m => by
    unfold places
    rcases finalReport_eq_nil_or m with h | h <;> rw [h] <;> simp
  | item :: items, n, m => by
    rw [places, List.pairwise_append]
    refine ⟨?_, pairwise_places g r items _ _, fun i hi j hj => ?_⟩
    · rw [List.map_const']
      rcases length_report m item with h | h <;> rw [h] <;> simp
    · obtain ⟨_, _, rfl⟩ := List.mem_map.1 hi
      exact (bounds_of_mem_places g r items _ _ j hj).1

theorem places_stoppedAt (g : Grammar) (r : Recovery) : ∀ (items items' : List Item) (n : Nat) (m : Matcher) (stop : Nat),
    items.map Item.kind? = items'.map Item.kind? → places g r n (m.stoppedAt stop) items' = places g r n m items
  | [], [], n, m, stop, _ => by
    have hlen := (finalReport_stoppedAt (fun _ _ => True) m stop).length_eq
    rw [places, places, List.map_const', List.map_const', hlen]
  | item :: items, item' :: items', n, m, stop, h => by
    obtain ⟨hhead, htail⟩ := List.cons.inj h
    have hlen := (report_stoppedAt hhead (R := fun _ _ => True) trivial m stop).length_eq
    rw [places, places, next_stoppedAt hhead, places_stoppedAt g r items items' _ _ _ htail, List.map_const',
      List.map_const', hlen]

end Matcher

theorem map_item?_diagnose_places (g : Grammar) (r : Recovery) (items : List Item) :
    (diagnose g r items).map Diagnostic.item? = ((Matcher.start g).places g r 0 items).map (items[·]?) :=
  Matcher.map_item?_reports g r items items 0 _ rfl

/-- **A matcher sees kinds and nothing else.**  Let two streams have tokens of the same kinds and illegal characters at the
same places.  Then the outcome is the same, and the diagnostics are as many, of the same sort one by one, with the same
kinds expected, and about the items at the same places of the two streams, where the place behind all items is that of
the end. -/
theorem only_kinds_seen (g : Grammar) (r : Recovery) {items items' : List Item}
    (h : items.map Item.kind? = items'.map Item.kind?) :
    recognize g r items' = recognize g r items ∧
    List.Forall₂ (Diagnostic.Like fun item item' => item.kind? = item'.kind?) (diagnose g r items)
      (diagnose g r items') ∧
    ∃ places : List Nat, places.Pairwise (· < ·) ∧ (∀ i ∈ places, i ≤ items.length) ∧
      (diagnose g r items).map Diagnostic.item? = places.map (items[·]?) ∧
      (diagnose g r items').map Diagnostic.item? = places.map (items'[·]?) := by
  have hlike := diagnose_like (R := fun item item' => item.kind? = item'.kind?) (fun _ _ hkind => hkind) g r
    (forall₂_eq_iff.2 h)
  have hplaces : (Matcher.start g).places g r 0 items' = (Matcher.start g).places g r 0 items :=
    Matcher.places_stoppedAt g r items items' 0 (Matcher.start g) 0 h
  refine ⟨recognize_like g r h, hlike, (Matcher.start g).places g r 0 items, Matcher.pairwise_places g r items 0 _,
    fun i hi => ?_, map_item?_diagnose_places g r items, ?_⟩
  · have := Matcher.bounds_of_mem_places g r items 0 _ i hi
    omega
  · rw [map_item?_diagnose_places, hplaces]

/-- Other numbers, words, marks and gaps, and the same kinds at the same six places. -/
theorem only_kinds_seen_respaced :
    (scan "5 # var int x @").map Item.kind? = (scan "007 ñ\nvar int total \"").map Item.kind? ∧
    recognize .stock {} (scan "007 ñ\nvar int total \"") = recognize .stock {} (scan "5 # var int x @") ∧
    ∃ places : List Nat, places.Pairwise (· < ·) ∧ (∀ i ∈ places, i ≤ 6) ∧ places.length = 4 ∧
      (diagnose .stock {} (scan "5 # var int x @")).map Diagnostic.item?
        = places.map ((scan "5 # var int x @")[·]?) ∧
      (diagnose .stock {} (scan "007 ñ\nvar int total \"")).map Diagnostic.item?
        = places.map ((scan "007 ñ\nvar int total \"")[·]?) := by
  have hkinds : (scan "5 # var int x @").map Item.kind? = (scan "007 ñ\nvar int total \"").map Item.kind? := by
    decide +kernel
  have hfour : (diagnose .stock {} (scan "5 # var int x @")).length = 4 := by decide +kernel
  have hsix : (scan "5 # var int x @").length = 6 := by decide +kernel
  obtain ⟨hsame, _, places, hrise, hbound, hmap, hmap'⟩ := only_kinds_seen .stock {} hkinds
  have hlen := congrArg List.length hmap
  rw [List.length_map, List.length_map, hfour] at hlen
  rw [hsix] at hbound
  exact ⟨hkinds, hsame, places, hrise, hbound, hlen.symm, hmap, hmap'⟩

end Plantilla
