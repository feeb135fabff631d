import Mathlib.Data.List.Perm.Basic
import Plantilla.Grammar.Stock
import Plantilla.Proofs.Accounting
import Plantilla.Proofs.Blaming
import Plantilla.Proofs.Narrowing
/-!
# Tracking — a cursor under any calls

A cursor is started over and advanced, in whatever order, and some of the kinds it is offered it refuses.  A track is a
cursor together with the kinds it took since it last started, as its own answers tell them.  Whatever the calls, the
cursor is the one after those kinds, and some template begins with them (`Faithful.run`); all else about it follows
(`live_begins_with_taken`).  In particular the completed template is the one with exactly these kinds, so the order of
the live templates, which decides only which one is found first, decides nothing.

A matcher treats its cursor in no other way (`Matcher.exists_calls`).
-/
namespace Plantilla

/-- What is the only one to be found is found in any order. -/
theorem find?_perm {α : Type} {f : α → Bool} {as bs : List α} (hperm : bs.Perm as)
    (h : (as.filter f).length ≤ 1) : bs.find? f = as.find? f := by
  have hfilter : (bs.filter f).Perm (as.filter f) := hperm.filter f
  rw [← List.head?_filter, ← List.head?_filter]
  cases hleft : as.filter f with
  | nil =>
    rw [hleft] at hfilter
    rw [hfilter.eq_nil]
  | cons a rest =>
    rw [hleft] at h hfilter
    obtain rfl : rest = [] := List.length_eq_zero_iff.1 (Nat.le_zero.1 (Nat.le_of_succ_le_succ h))
    rw [hfilter.eq_singleton]

/-! ## Advancing in place -/

namespace Cursor

/-- Advance in place: whether the kind is taken, and the cursor from then on. -/
def advance (c : Cursor) (kind : Kind) : Bool × Cursor :=
  if c.live.any fun p => p.expects c.position = some kind then
    (true, ⟨c.live.filter fun p => p.expects c.position = some kind, c.position + 1⟩)
  else (false, c)

/-- Advancing in place is `advance?`, with the cursor kept where a kind is refused. -/
theorem advance_eq (c : Cursor) (kind : Kind) :
    c.advance kind = match c.advance? kind with
      | some c' => (true, c')
      | none => (false, c) := by
  unfold advance advance?
  cases hlive : c.live.filter fun p => p.expects c.position = some kind with
  | nil =>
    have hany : ¬ (c.live.any fun p => p.expects c.position = some kind) = true := by
      rw [List.any_eq_true]
      rintro ⟨p, hp, hk⟩
      exact List.filter_eq_nil_iff.1 hlive p hp hk
    rw [if_neg hany]
  | cons p ps =>
    have hp : p ∈ c.live.filter fun p => p.expects c.position = some kind := hlive ▸ List.mem_cons_self
    rw [if_pos (List.any_eq_true.2 ⟨p, List.mem_filter.1 hp⟩)]

/-- What a cursor is asked to do. -/
inductive Call where
  | restart
  | advance (kind : Kind)
deriving DecidableEq, Repr

/-- **Where at most one template has as many kinds as were consumed, the order of the live ones does not matter.** -/
theorem completed?_perm {c : Cursor} {live : List Production} (hperm : live.Perm c.live)
    (h : (c.live.filter fun p => p.kinds.length = c.position).length ≤ 1) :
    (⟨live, c.position⟩ : Cursor).completed? = c.completed? := by
  refine find?_perm hperm (Nat.le_trans ?_ h)
  rw [← List.countP_eq_length_filter, ← List.countP_eq_length_filter]
  refine List.countP_mono_left fun p _ hp => ?_
  exact (Bool.and_eq_true _ _ ▸ hp).2

end Cursor

theorem Grammar.begins_perm {g g' : Grammar} (hperm : g'.productions.Perm g.productions) (ks : List Kind) :
    g'.Begins ks ↔ g.Begins ks :=
  exists_congr fun _ => and_congr_left' hperm.mem_iff

/-! ## Tracks -/

/-- A cursor, and the kinds that it took since it last started. -/
structure Track where
  cursor : Cursor
  taken : List Kind
deriving DecidableEq, Repr

namespace Track

open Cursor (Call)

def start (g : Grammar) : Track := ⟨Cursor.start g, []⟩

/-- One call.  A kind counts as taken if the cursor says so, whatever became of the cursor. -/
def call (g : Grammar) (t : Track) : Call → Track
  | .restart => start g
  | .advance kind =>
    ⟨(t.cursor.advance kind).2, if (t.cursor.advance kind).1 then t.taken ++ [kind] else t.taken⟩

def run (g : Grammar) (t : Track) (calls : List Call) : Track := calls.foldl (call g) t

/-- The cursor is the one after the kinds it took, and a template begins with them. -/
structure Faithful (g : Grammar) (t : Track) : Prop where
  cursor : t.cursor = Cursor.after g t.taken
  begins : g.Begins t.taken

theorem faithful_start (g : Grammar) : Faithful g (start g) := ⟨(Cursor.after_nil g).symm, g.begins_nil⟩

namespace Faithful

variable {g : Grammar} {t : Track}

theorem advance (h : Faithful g t) (kind : Kind) :
    t.cursor.advance kind =
      if g.Begins (t.taken ++ [kind]) then (true, Cursor.after g (t.taken ++ [kind])) else (false, t.cursor) := by
  rw [Cursor.advance_eq, h.cursor, Cursor.advance?_after]
  by_cases hk : g.Begins (t.taken ++ [kind])
  · rw [if_pos hk, if_pos hk]
  · rw [if_neg hk, if_neg hk]

theorem call_advance (h : Faithful g t) (kind : Kind) :
    t.call g (.advance kind) =
      if g.Begins (t.taken ++ [kind]) then ⟨Cursor.after g (t.taken ++ [kind]), t.taken ++ [kind]⟩ else t := by
  simp only [Track.call, h.advance kind]
  by_cases hk : g.Begins (t.taken ++ [kind]) <;> simp [hk]

/-- **Every call keeps a track faithful**, a refused kind and a start over too. -/
theorem call (h : Faithful g t) : ∀ c : Call, Faithful g (t.call g c)
  | .restart => faithful_start g
  | .advance kind => by
    rw [h.call_advance kind]
    -- a template that begins with the kinds and this one is what keeps the live list from running empty
    by_cases hk : g.Begins (t.taken ++ [kind])
    · rw [if_pos hk]
      exact ⟨rfl, hk⟩
    · rw [if_neg hk]
      exact h

theorem run : ∀ (calls : List Call) {t : Track}, Faithful g t → Faithful g (t.run g calls)
  | [], _, h => h
  | c :: calls, _, h => run calls (h.call c)

end Faithful

/-! ## What follows -/

section Reading

variable {g g' : Grammar} {t : Track}

theorem Faithful.live_eq (h : Faithful g t) :
    t.cursor.live = g.productions.filter fun p => p.kinds.take t.cursor.position = t.taken := by
  rw [h.cursor]
  refine List.filter_congr fun p _ => ?_
  rw [decide_eq_decide, List.prefix_iff_eq_take, eq_comm]
  rfl

theorem Faithful.live_ne_nil (h : Faithful g t) : t.cursor.live ≠ [] := by
  obtain ⟨p, hp, hk⟩ := h.begins
  rw [h.cursor]
  exact List.ne_nil_of_mem (Cursor.mem_live_after.2 ⟨hp, hk⟩)

theorem Faithful.advance_iff (h : Faithful g t) (kind : Kind) :
    (t.cursor.advance kind).1 = true ↔ g.Begins (t.taken ++ [kind]) := by
  rw [h.advance kind]
  by_cases hk : g.Begins (t.taken ++ [kind]) <;> simp [hk]

/-- A live template of this length has exactly the kinds taken. -/
theorem Faithful.length_filter_le (h : Faithful g t) :
    (t.cursor.live.filter fun p => p.kinds.length = t.cursor.position).length ≤ 1 := by
  refine Nat.le_trans ?_ (g.length_filter_kinds_le t.taken)
  rw [h.cursor, Cursor.after, List.filter_filter, ← List.countP_eq_length_filter, ← List.countP_eq_length_filter]
  refine List.countP_mono_left fun p _ hp => ?_
  rw [Bool.and_eq_true, decide_eq_true_eq, decide_eq_true_eq] at hp
  exact decide_eq_true (hp.2.eq_of_length hp.1.symm).symm

theorem Faithful.completed?_iff (h : Faithful g t) (p : Production) :
    t.cursor.completed? = some p ↔ p ∈ g.productions ∧ p.kinds = t.taken := by
  rw [h.cursor]
  exact Cursor.completed?_after_eq_some_iff g t.taken p

theorem taken_run_perm (hperm : g'.productions.Perm g.productions) : ∀ (calls : List Call) {t t' : Track},
    Faithful g t → Faithful g' t' → t'.taken = t.taken → (t'.run g' calls).taken = (t.run g calls).taken
  | [], _, _, _, _, htaken => htaken
  | c :: calls, t, t', h, h', htaken => by
    refine taken_run_perm hperm calls (h.call c) (h'.call c) ?_
    cases c with
    | restart => rfl
    | advance kind =>
      rw [h.call_advance, h'.call_advance, htaken]
      by_cases hk : g.Begins (t.taken ++ [kind]) <;> simp [Grammar.begins_perm hperm, hk, htaken]

end Reading

/-- **The live templates are those that begin with the kinds taken**, whatever the calls, refused kinds and starts over
among them: in declaration order, and always some.  A kind is taken exactly if a template goes on with it, and a refused
one changes nothing.  At most one live template is at its end, and it is the completed one: the one with exactly the
kinds taken, if there is one, in whatever order the live templates or those of the grammar stand. -/
theorem live_begins_with_taken (g : Grammar) (calls : List Call) :
    ∃ c taken, (start g).run g calls = ⟨c, taken⟩ ∧
      c.position = taken.length ∧
      c.live = g.productions.filter (fun p => p.kinds.take c.position = taken) ∧
      c.live ≠ [] ∧
      (∀ kind, (c.advance kind).1 = true ↔ ∃ p ∈ g.productions, taken ++ [kind] <+: p.kinds) ∧
      (∀ kind, (c.advance kind).1 = false → (c.advance kind).2 = c) ∧
      (c.live.filter fun p => p.kinds.length = c.position).length ≤ 1 ∧
      (∀ p, c.completed? = some p ↔ p ∈ g.productions ∧ p.kinds = taken) ∧
      (∀ live : List Production, live.Perm c.live → (⟨live, c.position⟩ : Cursor).completed? = c.completed?) ∧
      ∀ g' : Grammar, g'.productions.Perm g.productions →
        ((start g').run g' calls).cursor.completed? = c.completed? := by
  have h := (faithful_start g).run calls
  refine ⟨((start g).run g calls).cursor, ((start g).run g calls).taken, rfl, by rw [h.cursor]; rfl, h.live_eq,
    h.live_ne_nil, h.advance_iff, fun kind => ?_, h.length_filter_le, h.completed?_iff,
    fun live hperm => Cursor.completed?_perm hperm h.length_filter_le, fun g' hperm => ?_⟩
  · rw [h.advance kind]
    by_cases hk : g.Begins (((start g).run g calls).taken ++ [kind]) <;> simp [hk]
  · have h' := (faithful_start g').run calls
    refine Option.ext fun p => ?_
    rw [h.completed?_iff, h'.completed?_iff, hperm.mem_iff,
      taken_run_perm hperm calls (faithful_start g) (faithful_start g') rfl]

example : ((start .stock).run .stock [.advance .funcWord, .advance .plus, .restart, .advance .varWord, .advance .plus,
    .advance .textWord]).taken = [.varWord, .textWord] := by decide

theorem run_append (g : Grammar) (t : Track) (calls more : List Call) :
    t.run g (calls ++ more) = (t.run g calls).run g more := List.foldl_append

end Track

/-! ## The cursor of a matcher -/

namespace Matcher

variable (g : Grammar) (r : Recovery)

theorem cursor_afterRefusal (m : Matcher) : (afterRefusal g r m).cursor = match r.mode with
    | .halt => m.cursor
    | .synchronize => Cursor.start g := by
  unfold afterRefusal
  by_cases hq : m.quiet = 0 <;> cases r.mode <;> simp [hq]

theorem exists_calls_next {m : Matcher} {t : Track} (h : m.cursor = t.cursor) :
    ∀ item : Item, ∃ calls, (m.next g r item).cursor = (t.run g calls).cursor
  | .illegal c span => ⟨[], h⟩
  | .token token => by
    have hcall : (t.run g [.advance token.kind]).cursor = (m.cursor.advance token.kind).2 := by rw [h]; rfl
    rw [Cursor.advance_eq] at hcall
    cases m.fate token with
    | passed hh =>
      rw [next_of_halted g r hh]
      exact ⟨[], h⟩
    | taken c hh hc =>
      rw [next_of_advance g r hh hc]
      rw [hc] at hcall
      exact ⟨_, hcall.symm⟩
    | refused hh hc =>
      rw [next_of_refusal g r hh hc, cursor_afterRefusal]
      rw [hc] at hcall
      -- behind a halt the cursor is never asked again, and stays at the refused token
      cases r.mode with
      | halt => exact ⟨_, hcall.symm⟩
      | synchronize => exact ⟨[.advance token.kind, .restart], rfl⟩

/-- **A matcher makes no other use of its cursor**: in any run it is one that such calls lead to. -/
theorem exists_calls : ∀ (items : List Item) {m : Matcher} {t : Track}, m.cursor = t.cursor →
    ∃ calls, (m.run g r items).cursor = (t.run g calls).cursor
  | [], _, _, h => ⟨[], h⟩
  | item :: items, _, t, h => by
    obtain ⟨calls, hnext⟩ := exists_calls_next g r h item
    obtain ⟨more, hrun⟩ := exists_calls items hnext
    refine ⟨calls ++ more, ?_⟩
    rw [Track.run_append]
    exact hrun

end Matcher
end Plantilla
