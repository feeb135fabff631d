import Plantilla.Proofs.Draining
/-!
# Recording — the log tells what the diagnostics tell

A check is recorded by the scan, the matching and the verdict in turn, as the items are pulled one by one.  Records are
told apart by the words that they begin with, and no record begins with the words of another sort (`beginsWith_eq`).

What the matching records of a token is said once (`Noted`), and all else of a step follows from it.  The records of a
problem stand in the order of the diagnostics, one for one (`tells_notes`).  The record of a token is followed by one of
its fate before the scan records anything again, and by none behind a halt (`settled_notes`).  The verdict is recorded
last, and by the only record of its level (`log_tells_diagnostics`).
-/
namespace Plantilla

namespace Log.Event

/-! ## The words that a record begins with -/

def opening : Event → String
  | saturated _ => "integer literal "
  | token _ => "token "
  | illegal _ _ => "illegal character "
  | matched _ _ => "matched "
  | commits kind _ => kind.name ++ " commits to "
  | refused _ _ _ => "syntax error at "
  | discarded _ => "discarding "
  | completed _ => "input matches template '"
  | ended _ => "input ended at position "
  | endedQuiet => "input ended while resynchronizing"
  | blank => "nothing to check"
  | accepted _ => "accepted as "
  | rejected _ _ => "rejected with "

theorem prefix_foldl_append : ∀ (parts : List String) (w : String), w.toList <+: (parts.foldl (· ++ ·) w).toList
  | [], _ => List.prefix_refl _
  | part :: parts, w => by
    have hw : w.toList <+: (w ++ part).toList := by
      rw [String.toList_append]
      exact List.prefix_append _ _
    exact hw.trans (prefix_foldl_append parts (w ++ part))

theorem opening_prefix_message (e : Event) : e.opening.toList <+: e.message.toList := by
  cases e with
  | saturated => exact prefix_foldl_append [_, _] _
  | token => exact prefix_foldl_append [_, _, _, _, _] _
  | illegal => exact prefix_foldl_append [_, _, _] _
  | matched => exact prefix_foldl_append [_, _, _] _
  | commits => exact prefix_foldl_append [_] _
  | refused => exact prefix_foldl_append [_, _, _, _, _, _] _
  | discarded => exact prefix_foldl_append [_, _] _
  | completed => exact prefix_foldl_append [_, _] _
  | ended => exact prefix_foldl_append [_] _
  | endedQuiet => exact List.prefix_refl _
  | blank => exact List.prefix_refl _
  | accepted => exact prefix_foldl_append [_] _
  | rejected => exact prefix_foldl_append [_, _, _, _] _

def openings : List String :=
  ["integer literal ", "token ", "illegal character ", "matched ", "syntax error at ", "discarding ",
    "input matches template '", "input ended at position ", "input ended while resynchronizing", "nothing to check",
    "accepted as ", "rejected with "] ++ Kind.all.map fun kind => kind.name ++ " commits to "

theorem opening_mem_openings (e : Event) : e.opening ∈ openings := by
  cases e with
  | commits kind names =>
    refine List.mem_append_right _ (List.mem_map_of_mem ?_)
    cases kind <;> decide
  | _ => exact List.mem_append_left _ (by simp [opening])

theorem openings_apart : ∀ w ∈ openings, ∀ w' ∈ openings, w.toList <+: w'.toList → w = w' := by decide +kernel

/-- The record begins with some of these words. -/
def beginsWith (ws : List String) (e : Event) : Bool := ws.any fun w => w.toList.isPrefixOf e.message.toList

/-- **The words that a record begins with say of which sort it is.** -/
theorem beginsWith_eq {ws : List String} (hws : ∀ w ∈ ws, w ∈ openings) (e : Event) :
    e.beginsWith ws = decide (e.opening ∈ ws) := by
  rw [Bool.eq_iff_iff, decide_eq_true_eq, beginsWith, List.any_eq_true]
  constructor
  · rintro ⟨w, hw, hbegins⟩
    rw [List.isPrefixOf_iff_prefix] at hbegins
    rcases List.prefix_or_prefix_of_prefix hbegins e.opening_prefix_message with h | h
    · exact openings_apart w (hws w hw) _ e.opening_mem_openings h ▸ hw
    · exact (openings_apart _ e.opening_mem_openings w (hws w hw) h).symm ▸ hw
  · exact fun hw => ⟨e.opening, hw, List.isPrefixOf_iff_prefix.2 e.opening_prefix_message⟩

end Log.Event

/-! ## The parts that records play -/

inductive Log.Role where
  /-- Written by the scan. -/
  | scan
  /-- Tells the fate of a token. -/
  | fate
  /-- Tells that a token was refused, and that it was reported. -/
  | refusal
  /-- Tells of a problem. -/
  | problem

/-- The words that the records of a role begin with. -/
def Log.Role.words : Role → List String
  | scan => ["integer literal ", "token ", "illegal character "]
  | fate => ["matched ", "syntax error at ", "discarding "]
  | refusal => ["syntax error at "]
  | problem => ["illegal character ", "syntax error at ", "input ended at position "]

namespace Log.Event

def plays : Role → Event → Bool
  | .scan, saturated _ | .scan, token _ | .scan, illegal _ _ => true
  | .fate, matched _ _ | .fate, refused _ _ _ | .fate, discarded _ => true
  | .refusal, refused _ _ _ => true
  | .problem, illegal _ _ | .problem, refused _ _ _ | .problem, ended _ => true
  | _, _ => false

/-- **The words that a record begins with say what part it plays.** -/
theorem beginsWith_words (role : Role) (e : Event) : e.beginsWith role.words = plays role e := by
  have hopenings : ∀ w ∈ role.words, w ∈ openings := by cases role <;> decide
  rw [beginsWith_eq hopenings]
  cases e with
  | commits kind names => cases kind <;> cases role <;> simp [opening, Role.words, plays, Kind.name]
  | _ => cases role <;> simp [opening, Role.words, plays]

/-- The token of the record of a token. -/
def token? : Event → Option Token
  | token t => some t
  | _ => none

theorem token?_eq_none {e : Event} (h : e.plays .scan = false) : e.token? = none := by
  cases e with
  | token t => cases h
  | _ => rfl

/-- The token whose fate the record tells. -/
def fated? : Event → Option Token
  | matched t _ | refused t _ _ | discarded t => some t
  | _ => none

/-- The record tells of the diagnostic. -/
inductive Tells : Event → Diagnostic → Prop
  | illegal {c : Char} {span : Span} : Tells (.illegal c span.start) (.illegalCharacter c span)
  | refused {t : Token} {position : Nat} {names : List String} {expected : List Kind} :
      Tells (.refused t position names) (.unexpectedToken t expected)
  | ended {position offset : Nat} {expected : List Kind} : Tells (.ended position) (.unexpectedEnd offset expected)

end Log.Event

open Log (Event)

/-! ## What a step records -/

namespace Matcher

/-- What a matcher records of a token, and where. -/
inductive Noted (m : Matcher) (t : Token) : List Event → Prop
  | passed (hh : m.halted = true) : Noted m t []
  | taken {c : Cursor} (hh : m.halted = false) (hc : m.cursor.advance? t.kind = some c) (hfirst : c.position ≠ 1) :
      Noted m t [.matched t c.position]
  | committed {c : Cursor} (hh : m.halted = false) (hc : m.cursor.advance? t.kind = some c) (hfirst : c.position = 1) :
      Noted m t [.matched t c.position, .commits t.kind c.names]
  | refused (hh : m.halted = false) (hc : m.cursor.advance? t.kind = none) (hq : m.quiet = 0) :
      Noted m t [.refused t m.cursor.position m.cursor.names]
  | discarded (hh : m.halted = false) (hc : m.cursor.advance? t.kind = none) (hq : m.quiet ≠ 0) :
      Noted m t [.discarded t]

theorem noted (m : Matcher) (t : Token) : m.Noted t (m.note (.token t)) := by
  cases m.fate t with
  | passed hh =>
    simp only [note, hh, if_true]
    exact .passed hh
  | taken c hh hc =>
    by_cases hfirst : c.position = 1
    · simp only [note, hh, hc, if_pos hfirst, Bool.false_eq_true, if_false]
      exact .committed hh hc hfirst
    · simp only [note, hh, hc, if_neg hfirst, Bool.false_eq_true, if_false]
      exact .taken hh hc hfirst
  | refused hh hc =>
    by_cases hq : m.quiet = 0
    · simp only [note, hh, hc, if_pos hq, Bool.false_eq_true, if_false]
      exact .refused hh hc hq
    · simp only [note, hh, hc, if_neg hq, Bool.false_eq_true, if_false]
      exact .discarded hh hc hq

namespace Noted

variable {m : Matcher} {t : Token} {es : List Event}

/-- The problem that a step tells is recorded, and no other. -/
theorem tells (h : m.Noted t es) :
    List.Forall₂ Event.Tells (es.filter (Event.plays .problem)) (m.report (.token t)) := by
  cases h with
  | passed hh =>
    rw [report_of_halted hh]
    exact .nil
  | taken hh hc | committed hh hc =>
    rw [report_of_advance hh hc]
    exact .nil
  | refused hh hc hq =>
    rw [report_of_refusal hh hc, if_pos hq]
    exact .cons .refused .nil
  | discarded hh hc hq =>
    rw [report_of_refusal hh hc, if_neg hq]
    exact .nil

/-- The fate of the token is recorded, unless the matching has halted. -/
theorem fates (h : m.Noted t es) :
    (es.filter (Event.plays .fate)).map Event.fated? = if m.halted then [] else [some t] := by
  cases h with
  | passed hh => rw [hh]; rfl
  | taken hh | committed hh | refused hh | discarded hh => rw [hh]; rfl

/-- The matching halts with the record of a refusal, if it does not resynchronize. -/
theorem halted (h : m.Noted t es) (g : Grammar) {r : Recovery} (hquiet : r.mode = .halt → m.quiet = 0) :
    (m.next g r (.token t)).halted = (m.halted || (r.mode = .halt && es.any (Event.plays .refusal))) := by
  cases h with
  | passed hh => simp [next_of_halted g r hh, hh]
  | taken hh hc | committed hh hc => simp [next_of_advance g r hh hc, Event.plays]
  | refused hh hc hq =>
    cases hmode : r.mode <;> simp [next_of_refusal g r hh hc, afterRefusal, hmode, hq, hh, Event.plays]
  | discarded hh hc hq =>
    cases hmode : r.mode with
    | halt => exact absurd (hquiet hmode) hq
    | synchronize => simp [next_of_refusal g r hh hc, afterRefusal, hmode, hq]

/-- Neither the scan nor the verdict is recorded by a step. -/
theorem of_mem (h : m.Noted t es) : ∀ e ∈ es, e.plays .scan = false ∧ e.level ≠ .info := by
  cases h <;> simp [Event.plays, Event.level]

end Noted

theorem mem_finalNote {m : Matcher} {e : Event} (h : e ∈ m.finalNote) :
    (∃ name, e = .completed name) ∨ (∃ position, e = .ended position) ∨ e = .endedQuiet := by
  unfold finalNote at h
  cases hh : m.halted with
  | true => simp [hh] at h
  | false =>
    cases hc : m.cursor.completed? with
    | some p =>
      simp only [hh, hc, Bool.false_eq_true, if_false, List.mem_singleton] at h
      exact .inl ⟨_, h⟩
    | none =>
      by_cases hq : m.quiet = 0
      · simp only [hh, hc, hq, Bool.false_eq_true, if_false, if_true, List.mem_singleton] at h
        exact .inr (.inl ⟨_, h⟩)
      · simp only [hh, hc, hq, Bool.false_eq_true, if_false, List.mem_singleton] at h
        exact .inr (.inr h)

theorem plays_of_mem_finalNote {m : Matcher} {e : Event} (h : e ∈ m.finalNote) :
    e.plays .scan = false ∧ e.plays .fate = false := by
  rcases mem_finalNote h with ⟨_, rfl⟩ | ⟨_, rfl⟩ | rfl <;> exact ⟨rfl, rfl⟩

theorem tells_finalNote (m : Matcher) :
    List.Forall₂ Event.Tells (m.finalNote.filter (Event.plays .problem)) m.finalReport := by
  unfold finalNote finalReport
  cases m.halted with
  | true => exact .nil
  | false =>
    cases m.cursor.completed? with
    | some p => exact .nil
    | none =>
      by_cases hq : m.quiet = 0
      · simp only [hq, Bool.false_eq_true, if_false, if_true]
        exact .cons .ended .nil
      · simp only [hq, Bool.false_eq_true, if_false]
        exact .nil

end Matcher

/-! ## What becomes of a token -/

namespace Log

/-- The fates that are recorded from here on before the scan records anything again. -/
def fatesAhead (log : List Event) : List (Option Token) :=
  ((log.takeWhile fun e => !e.plays .scan).filter (Event.plays .fate)).map Event.fated?

theorem fatesAhead_append {front : List Event} (h : ∀ e ∈ front, e.plays .scan = false) (log : List Event) :
    fatesAhead (front ++ log) = (front.filter (Event.plays .fate)).map Event.fated? ++ fatesAhead log := by
  have hfront : ∀ e ∈ front, (!e.plays .scan) = true := fun e he => by rw [h e he]; rfl
  rw [fatesAhead, List.takeWhile_append_of_pos hfront, List.filter_append, List.map_append]
  rfl

/-- Every record of a token is followed by its fate, and by none behind a refusal that halts. -/
def Settled (mode : Recovery.Mode) : Bool → List Event → Prop
  | _, [] => True
  | halted, e :: log =>
    (∀ t, e = .token t → fatesAhead log = if halted then [] else [some t]) ∧
      Settled mode (halted || (mode = .halt && e.plays .refusal)) log

section Settled

variable {mode : Recovery.Mode} {halted : Bool} {log : List Event}

theorem settled_cons {e : Event} (htoken : ∀ t, e ≠ .token t) (hrefusal : e.plays .refusal = false)
    (h : Settled mode halted log) : Settled mode halted (e :: log) := by
  refine ⟨fun t he => absurd he (htoken t), ?_⟩
  rwa [hrefusal, Bool.and_false, Bool.or_false]

theorem settled_cons_token {t : Token} (hfates : fatesAhead log = if halted then [] else [some t])
    (h : Settled mode halted log) : Settled mode halted (.token t :: log) := by
  refine ⟨fun t' ht => ?_, ?_⟩
  · cases ht
    exact hfates
  · rwa [show (Event.token t).plays .refusal = false from rfl, Bool.and_false, Bool.or_false]

end Settled

theorem settled_append {mode : Recovery.Mode} {log : List Event} : ∀ {front : List Event} {halted : Bool},
    (∀ e ∈ front, e.plays .scan = false) →
    Settled mode (halted || (mode = .halt && front.any (Event.plays .refusal))) log → Settled mode halted (front ++ log)
  | [], halted, _, hlog => by simpa using hlog
  | e :: front, halted, hfront, hlog => by
    refine ⟨fun t he => ?_, settled_append (fun e' he' => hfront e' (List.mem_cons_of_mem e he')) ?_⟩
    · have hscan := hfront e List.mem_cons_self
      rw [he] at hscan
      cases hscan
    · rwa [Bool.or_assoc, ← Bool.and_or_distrib_left, ← List.any_cons]

theorem Settled.fatesAhead_eq {mode : Recovery.Mode} {t : Token} {post : List Event} :
    ∀ {pre : List Event} {halted : Bool}, Settled mode halted (pre ++ .token t :: post) →
      fatesAhead post = if halted || (mode = .halt && pre.any (Event.plays .refusal)) then [] else [some t]
  | [], halted, h => by
    rw [h.1 t rfl]
    simp
  | e :: pre, halted, h => by rw [h.2.fatesAhead_eq, Bool.or_assoc, ← Bool.and_or_distrib_left, ← List.any_cons]

end Log

open Log (fatesAhead Settled)

/-! ## Whole runs -/

namespace Matcher

variable (g : Grammar) (r : Recovery) (cs : List Char)

/-- A run that halts owes nothing. -/
theorem quiet_next_of_halt {r : Recovery} (hmode : r.mode = .halt) {m : Matcher} (hq : m.quiet = 0) (item : Item) :
    (m.next g r item).quiet = 0 := by
  cases item with
  | illegal c span => exact hq
  | token t =>
    cases m.fate t with
    | passed hh => rw [next_of_halted g r hh]; exact hq
    | taken c hh hc =>
      rw [next_of_advance g r hh hc]
      show m.quiet - 1 = 0
      omega
    | refused hh hc =>
      rw [next_of_refusal g r hh hc, afterRefusal]
      simp [hmode, hq]

theorem scanned_token (t : Token) : Checker.scanned cs (.token t) = [.token t] ∨
    ∃ digits, Checker.scanned cs (.token t) = [.saturated digits, .token t] := by
  unfold Checker.scanned
  by_cases hs : t.isSaturated = true
  · exact .inr ⟨_, by simp only [hs, if_true]; rfl⟩
  · exact .inl (by simp only [hs]; rfl)

/-- **The records of a problem and the diagnostics are one for one**, in order. -/
theorem tells_notes : ∀ (items : List Item) (m : Matcher), List.Forall₂ Event.Tells
    ((m.notes g r (Checker.scanned cs) items).filter (Event.plays .problem)) (m.reports g r items)
  | [], m => m.tells_finalNote
  | .illegal c span :: items, m => .cons .illegal (tells_notes items (m.next g r (.illegal c span)))
  | .token t :: items, m => by
    have hscanned : (Checker.scanned cs (.token t)).filter (Event.plays .problem) = [] := by
      rcases scanned_token cs t with h | ⟨digits, h⟩ <;> rw [h] <;> rfl
    rw [notes, reports, List.filter_append, List.filter_append, hscanned, List.nil_append]
    exact List.rel_append (m.noted t).tells (tells_notes items _)

/-- The tokens are recorded, each once and in order. -/
theorem filterMap_token?_notes : ∀ (items : List Item) (m : Matcher),
    (m.notes g r (Checker.scanned cs) items).filterMap Event.token? = Item.tokens items
  | [], m => by
    rw [notes, List.filterMap_eq_nil_iff.2]
    · rfl
    · exact fun e he => Event.token?_eq_none (plays_of_mem_finalNote he).1
  | .illegal c span :: items, m => filterMap_token?_notes items (m.next g r (.illegal c span))
  | .token t :: items, m => by
    have hscanned : (Checker.scanned cs (.token t)).filterMap Event.token? = [t] := by
      rcases scanned_token cs t with h | ⟨digits, h⟩ <;> rw [h] <;> rfl
    have hnote : (m.note (.token t)).filterMap Event.token? = [] :=
      List.filterMap_eq_nil_iff.2 fun e he => Event.token?_eq_none ((m.noted t).of_mem e he).1
    rw [notes, List.filterMap_append, List.filterMap_append, hscanned, hnote, filterMap_token?_notes items]
    rfl

/-- The scan and the matching leave the level of the verdict to the verdict. -/
theorem level_of_mem_notes : ∀ (items : List Item) (m : Matcher) (e : Event),
    e ∈ m.notes g r (Checker.scanned cs) items → e.level ≠ .info
  | [], m, e, he => by
    rcases mem_finalNote he with ⟨_, rfl⟩ | ⟨_, rfl⟩ | rfl <;> nofun
  | .illegal c span :: items, m, e, he => by
    rcases List.mem_cons.1 he with rfl | he
    · nofun
    · exact level_of_mem_notes items _ e he
  | .token t :: items, m, e, he => by
    rw [notes, List.mem_append, List.mem_append] at he
    rcases he with (he | he) | he
    · rcases scanned_token cs t with h | ⟨digits, h⟩
      · rw [h, List.mem_singleton] at he
        subst he
        nofun
      · rw [h, List.mem_pair] at he
        rcases he with rfl | rfl <;> nofun
    · exact ((m.noted t).of_mem e he).2
    · exact level_of_mem_notes items _ e he

/-- No fate is left to be recorded when the next item comes, or the end. -/
theorem fatesAhead_notes {last : Event} (hscan : last.plays .scan = false) (hfate : last.plays .fate = false) :
    ∀ (items : List Item) (m : Matcher), fatesAhead (m.notes g r (Checker.scanned cs) items ++ [last]) = []
  | [], m => by
    have hquiet : ∀ e ∈ m.finalNote ++ [last], e.plays .scan = false ∧ e.plays .fate = false := by
      intro e he
      rcases List.mem_append.1 he with he | he
      · exact plays_of_mem_finalNote he
      · rw [List.mem_singleton.1 he]
        exact ⟨hscan, hfate⟩
    have hnone : (m.finalNote ++ [last]).filter (Event.plays .fate) = [] :=
      List.filter_eq_nil_iff.2 fun e he => by rw [(hquiet e he).2]; exact Bool.false_ne_true
    have happend := Log.fatesAhead_append (fun e he => (hquiet e he).1) []
    rw [hnone, List.append_nil] at happend
    exact happend
  | .illegal c span :: items, m => rfl
  | .token t :: items, m => by
    rcases scanned_token cs t with h | ⟨digits, h⟩ <;> rw [notes, h] <;> rfl

/-- **A token's record is followed by that of its fate**, as long as the matching has not halted. -/
theorem settled_notes {last : Event} (hscan : last.plays .scan = false) (hfate : last.plays .fate = false) :
    ∀ (items : List Item) (m : Matcher), (r.mode = .halt → m.quiet = 0) →
      Settled r.mode m.halted (m.notes g r (Checker.scanned cs) items ++ [last])
  | [], m, _ => by
    have hquiet : ∀ e ∈ m.finalNote ++ [last], e.plays .scan = false := by
      intro e he
      rcases List.mem_append.1 he with he | he
      · exact (plays_of_mem_finalNote he).1
      · rw [List.mem_singleton.1 he]
        exact hscan
    have hsettled : Settled r.mode m.halted ((m.finalNote ++ [last]) ++ []) := Log.settled_append hquiet trivial
    rwa [List.append_nil] at hsettled
  | .illegal c span :: items, m, hq =>
    Log.settled_cons nofun rfl (settled_notes hscan hfate items (m.next g r (.illegal c span)) hq)
  | .token t :: items, m, hq => by
    have hnext : r.mode = .halt → (m.next g r (.token t)).quiet = 0 := fun hmode =>
      quiet_next_of_halt g hmode (hq hmode) _
    have hrest := settled_notes hscan hfate items (m.next g r (.token t)) hnext
    have hahead := fatesAhead_notes g r cs hscan hfate items (m.next g r (.token t))
    have hnote : ∀ e ∈ m.note (.token t), e.plays .scan = false := fun e he => ((m.noted t).of_mem e he).1
    rw [(m.noted t).halted g hq] at hrest
    have hfates : fatesAhead (m.note (.token t)
        ++ ((m.next g r (.token t)).notes g r (Checker.scanned cs) items ++ [last]))
        = if m.halted then [] else [some t] := by
      rw [Log.fatesAhead_append hnote, hahead, List.append_nil, (m.noted t).fates]
    have htoken := Log.settled_cons_token hfates (Log.settled_append hnote hrest)
    rw [notes, List.append_assoc, List.append_assoc]
    rcases scanned_token cs t with h | ⟨digits, h⟩
    · rw [h]
      exact htoken
    · rw [h]
      exact Log.settled_cons nofun rfl htoken

end Matcher

/-! ## The log of a check -/

namespace Checker

variable (c : Checker) {source : String} {items : List Item}

theorem log_eq (h : innerItems source = some items) :
    c.log source = (Matcher.start c.grammar).notes c.grammar c.recovery (scanned source.toList) items
      ++ [closing (recognize c.grammar c.recovery items)] := by
  unfold log
  rw [h]

/-- The verdict is recorded with the template, or with the numbers of the diagnostics of either stage. -/
theorem closing_eq (h : innerItems source = some items) :
    let last := closing (recognize c.grammar c.recovery items)
    let report := c.report source
    (report.verdict = .accepted ∧ last = .accepted report.template) ∨
    (report.verdict = .rejected ∧ last = .rejected (Diagnostic.tally .lexical report.diagnostics)
      (Diagnostic.tally .grammatical report.diagnostics)) := by
  intro last report
  have hlexical := count_recognize c.grammar c.recovery .lexical items
  have hgrammatical := count_recognize c.grammar c.recovery .grammatical items
  have hreport := c.report_eq_conclude h
  by_cases hacc : (recognize c.grammar c.recovery items).accepted = true
  · rw [Recognition.conclude_of_accepted hacc] at hreport
    exact .inl ⟨by rw [show report = _ from hreport], by
      rw [show report = _ from hreport]
      exact if_pos hacc⟩
  · rw [Recognition.conclude_of_not_accepted hacc] at hreport
    refine .inr ⟨by rw [show report = _ from hreport], ?_⟩
    rw [show report = _ from hreport, ← hlexical, ← hgrammatical]
    exact if_neg hacc

theorem plays_closing (role : Log.Role) (r : Recognition) : (closing r).plays role = false := by
  unfold closing
  by_cases hacc : r.accepted = true
  · rw [if_pos hacc]
    cases role <;> rfl
  · rw [if_neg hacc]
    cases role <;> rfl

end Checker

end Plantilla
