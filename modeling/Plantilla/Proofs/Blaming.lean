import Mathlib.Data.List.Nodup
import Mathlib.Order.Nat
import Plantilla.Grammar
/-!
# Blaming — which grammars there are, and who is to blame

The check of a list of productions walks it once, with the kind lists it has seen.  Said by place, a production offends
if it is empty or has the kinds of one in front of it (`Offends`).  A list without offenders is an unambiguous one
(`unambiguous_iff`), and what the check finds in any other is the fault of the first offender
(`firstFault_eq_some_iff`).  So both doors to a grammar let in exactly the unambiguous lists
(`grammar_iff_unambiguous`), and the message of a fault is enough to tell whose fault it is (`message_injective`).
-/
namespace Plantilla

/-! ## Offenders -/

/-- The production at this place is empty, or has the kinds of one in front of it. -/
def Offends (ps : List Production) (i : Nat) : Prop :=
  ∃ p ∈ ps[i]?, p.kinds = [] ∨ ∃ earlier ∈ ps.take i, earlier.kinds = p.kinds

instance (ps : List Production) (i : Nat) : Decidable (Offends ps i) :=
  inferInstanceAs (Decidable (∃ p ∈ ps[i]?, p.kinds = [] ∨ ∃ earlier ∈ ps.take i, earlier.kinds = p.kinds))

/-- What an offender is blamed for. -/
def Production.fault (p : Production) : Grammar.Fault :=
  if p.kinds = [] then .emptyProduction p.name else .duplicateProduction p.name

/-- This is the fault of the first offender. -/
def Blames (ps : List Production) (fault : Grammar.Fault) : Prop :=
  ∃ i, ∃ p ∈ ps[i]?, Offends ps i ∧ (∀ j < i, ¬ Offends ps j) ∧ fault = p.fault

theorem offends_take_iff (ps : List Production) (i j : Nat) : Offends (ps.take i) j ↔ j < i ∧ Offends ps j := by
  unfold Offends
  by_cases hj : j < i
  · simp [List.take_take, hj, Nat.min_eq_left (Nat.le_of_lt hj)]
  · have hnone : (ps.take i)[j]? = none := List.getElem?_take_eq_none (Nat.le_of_not_lt hj)
    rw [hnone]
    simp [hj]

/-- **A list is unambiguous exactly when no place offends.** -/
theorem unambiguous_iff (ps : List Production) : Unambiguous ps ↔ ∀ i, ¬ Offends ps i := by
  unfold Unambiguous
  rw [List.nodup_iff_getElem?_ne_getElem?]
  constructor
  · rintro ⟨hne, hnd⟩ i ⟨p, hp, hempty | ⟨q, hq, hkinds⟩⟩
    · exact hne p (List.mem_of_getElem? hp) hempty
    · obtain ⟨j, hj, rfl⟩ := List.mem_take_iff_getElem.1 hq
      have hlen : i < ps.length := (List.getElem?_eq_some_iff.1 hp).1
      refine hnd j i (by omega) (by simpa using hlen) ?_
      rw [List.getElem?_map, List.getElem?_map, hp, List.getElem?_eq_getElem (by omega)]
      exact congrArg some hkinds
  · intro h
    refine ⟨fun p hp hempty => ?_, fun j i hji hi hsame => ?_⟩
    · obtain ⟨i, hi⟩ := List.mem_iff_getElem?.1 hp
      exact h i ⟨p, hi, .inl hempty⟩
    · rw [List.length_map] at hi
      rw [List.getElem?_map, List.getElem?_map, List.getElem?_eq_getElem hi,
        List.getElem?_eq_getElem (Nat.lt_trans hji hi)] at hsame
      refine h i ⟨ps[i], List.getElem?_eq_getElem hi, .inr ⟨ps[j], ?_, Option.some.inj hsame⟩⟩
      exact List.mem_take_iff_getElem.2 ⟨j, by omega, rfl⟩

/-! ## What the check finds -/

/-- Behind a part without a fault, the check goes on with the kinds of that part seen. -/
theorem firstFault_append (behind : List Production) : ∀ (front : List Production) (seen : List (List Kind)),
    firstFault seen front = none →
      firstFault seen (front ++ behind) = firstFault ((front.map Production.kinds).reverse ++ seen) behind
  | [], seen, _ => rfl
  | p :: front, seen, h => by
    unfold firstFault at h
    by_cases hempty : p.kinds = []
    · simp [hempty] at h
    · by_cases hseen : p.kinds ∈ seen
      · simp [hempty, hseen] at h
      · rw [if_neg hempty, if_neg hseen] at h
        rw [List.cons_append, firstFault, if_neg hempty, if_neg hseen, firstFault_append behind front _ h]
        simp

theorem firstFault_of_first {ps : List Production} {i : Nat} {p : Production} (hp : ps[i]? = some p)
    (hoffends : Offends ps i) (hfirst : ∀ j < i, ¬ Offends ps j) : firstFault [] ps = some p.fault := by
  have hfront : firstFault [] (ps.take i) = none := by
    rw [firstFault_eq_none_iff, unambiguous_iff]
    refine ⟨fun j hj => ?_, fun _ _ => List.not_mem_nil⟩
    obtain ⟨hji, hoffends⟩ := (offends_take_iff ps i j).1 hj
    exact hfirst j hji hoffends
  obtain ⟨hi, hget⟩ := List.getElem?_eq_some_iff.1 hp
  have hsplit : ps = ps.take i ++ p :: ps.drop (i + 1) := by
    rw [← hget, ← List.drop_eq_getElem_cons hi, List.take_append_drop]
  -- what stands in front is what the check has seen when it comes to this place
  obtain ⟨q, hq, hbad⟩ := hoffends
  obtain rfl : q = p := Option.some.inj (hq.symm.trans hp)
  rw [hsplit, firstFault_append _ _ _ hfront, firstFault, Production.fault]
  by_cases hempty : q.kinds = []
  · rw [if_pos hempty, if_pos hempty]
  · obtain ⟨earlier, hearlier, hkinds⟩ := hbad.resolve_left hempty
    have hseen : q.kinds ∈ ((ps.take i).map Production.kinds).reverse ++ [] := by
      rw [List.append_nil, List.mem_reverse]
      exact List.mem_map.2 ⟨earlier, hearlier, hkinds⟩
    rw [if_neg hempty, if_neg hempty, if_pos hseen]

theorem firstFault_eq_some_iff (ps : List Production) (fault : Grammar.Fault) :
    firstFault [] ps = some fault ↔ Blames ps fault := by
  constructor
  · intro h
    have hsome : ∃ i, Offends ps i := by
      by_contra hno
      have hnone := (firstFault_eq_none_iff ps []).2
        ⟨(unambiguous_iff ps).2 (not_exists.1 hno), fun _ _ => List.not_mem_nil⟩
      rw [h] at hnone
      cases hnone
    obtain ⟨p, hp, _⟩ := Nat.find_spec hsome
    refine ⟨Nat.find hsome, p, hp, Nat.find_spec hsome, fun j hj => Nat.find_min hsome hj, ?_⟩
    have hfound := firstFault_of_first hp (Nat.find_spec hsome) fun j hj => Nat.find_min hsome hj
    exact Option.some.inj (h.symm.trans hfound)
  · rintro ⟨i, p, hp, hoffends, hfirst, rfl⟩
    exact firstFault_of_first hp hoffends hfirst

-- names may repeat and kinds may go on; the third repeats the first, and the fourth is empty
example : (List.range 4).filter (Offends
    [⟨"a", [.ident]⟩, ⟨"a", [.ident, .plus]⟩, ⟨"b", [.ident]⟩, ⟨"c", []⟩]) = [2, 3] := by decide

theorem Blames.not_unambiguous {ps : List Production} {fault : Grammar.Fault} (h : Blames ps fault) :
    ¬ Unambiguous ps := by
  obtain ⟨i, _, _, hoffends, _⟩ := h
  exact fun hun => (unambiguous_iff ps).1 hun i hoffends

theorem not_blames_nil (fault : Grammar.Fault) : ¬ Blames [] fault :=
  fun h => h.not_unambiguous unambiguous_nil

/-! ## The words for a fault -/

namespace Grammar.Fault

theorem message_emptyProduction_ne (name name' : String) :
    (emptyProduction name).message ≠ (duplicateProduction name').message := by
  intro h
  -- they begin alike and end in different characters
  have hlast := congrArg (fun s : String => s.toList.getLast?) h
  simp [message, List.getLast?_cons, List.getLast?_append] at hlast

/-- **A message says which fault it tells of**, and the name that it blames. -/
theorem message_injective : Function.Injective message := by
  intro fault fault' h
  have hlist := congrArg String.toList h
  cases fault with
  | noProductions start =>
    cases fault' with
    | noProductions start' => simpa [message, String.toList_inj] using hlist
    | _ => simp [message] at hlist
  | emptyProduction name =>
    cases fault' with
    | noProductions start => simp [message] at hlist
    | emptyProduction name' => simpa [message, String.toList_inj] using hlist
    | duplicateProduction name' => exact absurd h (message_emptyProduction_ne name name')
  | duplicateProduction name =>
    cases fault' with
    | noProductions start => simp [message] at hlist
    | emptyProduction name' => exact absurd h.symm (message_emptyProduction_ne name' name)
    | duplicateProduction name' => simpa [message, String.toList_inj] using hlist

end Grammar.Fault

/-! ## The two doors -/

/-- An answer that goes by the check: a grammar, of which `P` holds, or else the fault of the first offender. -/
def Checked (ps : List Production) (P : Grammar → Prop) (answer : Except Grammar.Fault Grammar) : Prop :=
  (Unambiguous ps ∧ ∃ g, answer = .ok g ∧ P g) ∨ ∃ fault, Blames ps fault ∧ answer = .error fault

namespace Checked

variable {ps : List Production} {P : Grammar → Prop} {answer : Except Grammar.Fault Grammar}

theorem of_fault {fault : Grammar.Fault} (h : firstFault [] ps = some fault) : Checked ps P (.error fault) :=
  .inr ⟨fault, (firstFault_eq_some_iff ps fault).1 h, rfl⟩

theorem of_none {g : Grammar} (h : firstFault [] ps = none) (hP : P g) : Checked ps P (.ok g) :=
  .inl ⟨unambiguous_of_firstFault h, g, rfl, hP⟩

theorem exists_iff (h : Checked ps P answer) : (∃ g, answer = .ok g) ↔ Unambiguous ps := by
  rcases h with ⟨hun, g, rfl, _⟩ | ⟨fault, hblames, rfl⟩
  · exact ⟨fun _ => hun, fun _ => ⟨g, rfl⟩⟩
  · constructor
    · rintro ⟨g, hok⟩
      cases hok
    · exact fun hun => absurd hun hblames.not_unambiguous

theorem of_ok (h : Checked ps P answer) (g : Grammar) (hok : answer = .ok g) : P g := by
  rcases h with ⟨_, g', rfl, hP⟩ | ⟨fault, _, rfl⟩
  · exact Except.ok.inj hok ▸ hP
  · cases hok

theorem error_iff (h : Checked ps P answer) (fault : Grammar.Fault) : answer = .error fault ↔ Blames ps fault := by
  rcases h with ⟨hun, g, rfl, _⟩ | ⟨found, hblames, rfl⟩
  · constructor
    · intro herror
      cases herror
    · exact fun hblames => absurd hun hblames.not_unambiguous
  · have hfound := (firstFault_eq_some_iff ps found).2 hblames
    rw [← firstFault_eq_some_iff, hfound, Except.error.injEq, Option.some.injEq]

end Checked

namespace Grammar

theorem make_nil (start : String) : make start [] = .error (.noProductions start) := rfl

theorem checked_make (start : String) {ps : List Production} (hne : ps ≠ []) :
    Checked ps (fun g => g.start = start ∧ g.productions = ps ∧ g.detached = []) (make start ps) := by
  unfold make
  rw [dif_neg hne]
  split
  · rename_i fault hfault
    exact .of_fault hfault
  · rename_i hnone
    exact .of_none hnone ⟨rfl, rfl, rfl⟩

theorem checked_withDetached (g : Grammar) (ps : List Production) :
    Checked ps (fun g' => g'.start = g.start ∧ g'.productions = g.productions ∧ g'.detached = ps)
      (g.withDetached ps) := by
  unfold withDetached
  split
  · rename_i fault hfault
    exact .of_fault hfault
  · rename_i hnone
    exact .of_none hnone ⟨rfl, rfl, rfl⟩

/-- A sequence of kinds is that of at most one template. -/
theorem length_filter_kinds_le (g : Grammar) (ks : List Kind) :
    (g.productions.filter fun p => p.kinds = ks).length ≤ 1 := by
  have hcount : (g.productions.map Production.kinds).count ks ≤ 1 :=
    List.nodup_iff_count_le_one.1 g.productions_unambiguous.2 ks
  rw [List.count, List.countP_map] at hcount
  rw [← List.countP_eq_length_filter]
  refine Nat.le_trans (List.countP_mono_left fun p _ hp => ?_) hcount
  simpa using hp

end Grammar

/-- **A grammar is made of exactly the unambiguous lists, and the first offender of any other is blamed.**  The
productions of a start symbol must be some, the detached ones may be none and may repeat those of the start symbol;
names do not matter.  What comes out has what went in.  Otherwise the fault names the production at the least place
that is empty or has the kinds of an earlier one, and says which of the two it is.  So in any grammar a sequence of
kinds is that of at most one production of the start symbol. -/
theorem grammar_iff_unambiguous (start : String) (ps ds : List Production) (g : Grammar) :
    ((∃ made, Grammar.make start ps = .ok made) ↔ ps ≠ [] ∧ Unambiguous ps) ∧
    (∀ made, Grammar.make start ps = .ok made → made.start = start ∧ made.productions = ps ∧ made.detached = []) ∧
    (∀ fault, Grammar.make start ps = .error fault ↔ ps = [] ∧ fault = .noProductions start ∨ Blames ps fault) ∧
    ((∃ made, g.withDetached ds = .ok made) ↔ Unambiguous ds) ∧
    (∀ made, g.withDetached ds = .ok made →
      made.start = g.start ∧ made.productions = g.productions ∧ made.detached = ds) ∧
    (∀ fault, g.withDetached ds = .error fault ↔ Blames ds fault) ∧
    ∀ ks, (g.productions.filter fun p => p.kinds = ks).length ≤ 1 := by
  have hdetached := g.checked_withDetached ds
  refine ⟨?_, ?_, ?_, hdetached.exists_iff, hdetached.of_ok, hdetached.error_iff, g.length_filter_kinds_le⟩
  · rcases eq_or_ne ps [] with rfl | hne
    · simp [Grammar.make_nil]
    · rw [(Grammar.checked_make start hne).exists_iff, and_iff_right hne]
  · rcases eq_or_ne ps [] with rfl | hne
    · simp [Grammar.make_nil]
    · exact (Grammar.checked_make start hne).of_ok
  · intro fault
    rcases eq_or_ne ps [] with rfl | hne
    · simp [Grammar.make_nil, not_blames_nil, eq_comm]
    · rw [(Grammar.checked_make start hne).error_iff, or_iff_right fun hnil => hne hnil.1]

end Plantilla
