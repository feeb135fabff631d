import Plantilla.Proofs.Acceptance
import Plantilla.Session
/-!
# Sessions — one course, whoever listens

A step looks at its checker and never at what the sink holds, so a sink that shows diagnostics in another way
(`Sink.Shows`) is led through the same session as a list that keeps them: same answers, and after every step it shows
what the list holds (`run_shown`).  Step `i` starts where the steps in front of it led (`getElem?_run`), and all that
those leave to a later check is the recovery last set (`checker_after`).
-/
namespace Plantilla

/-- A sink of another kind that is told as the list is told. -/
structure Sink.Shows {σ : Type} [Sink σ] (view : List Diagnostic → σ) : Prop where
  report : ∀ ds d, Sink.report (view ds) d = view (ds ++ [d])
  clear : ∀ ds, Sink.clear (view ds) = view []

/-- What a list of messages holds where a list of diagnostics holds `ds`. -/
def MessageList.ofDiagnostics (ds : List Diagnostic) : MessageList := ⟨ds.map Diagnostic.message⟩

theorem MessageList.shows : Sink.Shows MessageList.ofDiagnostics where
  report ds d := by
    show MessageList.mk (ds.map Diagnostic.message ++ [d.message]) = ⟨(ds ++ [d]).map Diagnostic.message⟩
    rw [List.map_append]
    rfl
  clear _ := rfl

def Checker.withRecovery (c : Checker) (r : Recovery) : Checker := { c with recovery := r }

def Step.recovery? : Step → Option Recovery
  | .recovery r => some r
  | _ => none

namespace Sink.Shows

variable {σ : Type} [Sink σ] {view : List Diagnostic → σ} (h : Shows view)
include h

theorem reportAll : ∀ ds kept : List Diagnostic, Sink.reportAll (view kept) ds = view (kept ++ ds)
  | [], kept => by rw [List.append_nil]; rfl
  | d :: ds, kept => by
    show Sink.reportAll (Sink.report (view kept) d) ds = view (kept ++ d :: ds)
    rw [h.report, reportAll ds, List.append_assoc]
    rfl

theorem check (c : Checker) (source : String) (kept : List Diagnostic) : c.check source (view kept)
    = (((c.report source).verdict, (c.report source).template), view (c.report source).diagnostics) := by
  unfold Checker.check
  rw [h.clear]
  cases hitems : innerItems source with
  | none => rw [c.report_of_none hitems]
  | some items =>
    simp only [recognizeInto, h.reportAll, List.nil_append]
    rw [c.report_eq_conclude hitems]

end Sink.Shows

namespace Session

variable {σ : Type} [Sink σ]

/-- The session behind some steps. -/
def after (s : Session σ) (steps : List Step) : Session σ := steps.foldl (fun s step => (s.step step).2) s

/-- What the sink holds before some steps, and behind each of them. -/
def sinks (s : Session σ) (steps : List Step) : List σ := s.sink :: (s.run steps).map Prod.snd

theorem getElem?_run : ∀ (steps : List Step) (s : Session σ) (i : Nat) (step : Step), steps[i]? = some step →
    (s.sinks steps)[i]? = some (s.after (steps.take i)).sink ∧
    (s.run steps)[i]? = some (((s.after (steps.take i)).step step).1, ((s.after (steps.take i)).step step).2.sink)
  | [], _, _, _, h => by cases h
  | _ :: _, _, 0, _, h => by
    cases h
    exact ⟨rfl, rfl⟩
  | first :: steps, s, i + 1, step, h => by
    -- behind the first step, the run and its sinks are those of the session to which it led
    have ih := getElem?_run steps (s.step first).2 i step h
    exact ih

/-! ## What is left to a later check -/

/-- The recovery that is in force behind some steps: the last one set, or the one before them. -/
def recoveryAfter (r : Recovery) (steps : List Step) : Recovery := (steps.filterMap Step.recovery?).getLastD r

theorem recoveryAfter_cons (r : Recovery) (step : Step) (steps : List Step) :
    recoveryAfter r (step :: steps) = recoveryAfter (step.recovery?.getD r) steps := by
  unfold recoveryAfter
  cases hset : step.recovery? with
  | none => rw [List.filterMap_cons_none hset, Option.getD_none]
  | some r' => rw [List.filterMap_cons_some hset, List.getLastD_cons, Option.getD_some]

theorem checker_step (s : Session σ) (step : Step) :
    (s.step step).2.checker = s.checker.withRecovery (step.recovery?.getD s.checker.recovery) := by
  cases step <;> rfl

theorem checker_after : ∀ (steps : List Step) (s : Session σ),
    (s.after steps).checker = s.checker.withRecovery (recoveryAfter s.checker.recovery steps)
  | [], _ => rfl
  | step :: steps, s => by
    have hafter : s.after (step :: steps) = (s.step step).2.after steps := rfl
    rw [hafter, checker_after steps, checker_step, recoveryAfter_cons]
    rfl

/-! ## One course -/

/-- The session, with the list of its diagnostics shown as another sink. -/
def shown (view : List Diagnostic → σ) (s : Session (List Diagnostic)) : Session σ := ⟨s.checker, view s.sink⟩

section Shown

variable {view : List Diagnostic → σ} (h : Sink.Shows view)
include h

/-- **A step answers the same and leaves the same**, whoever listens. -/
theorem step_shown (s : Session (List Diagnostic)) (step : Step) :
    (s.shown view).step step = ((s.step step).1, (s.step step).2.shown view) := by
  cases step with
  | check source => simp only [Session.step, shown, h.check, Checker.check_list]
  | recovery r => rfl
  | clear =>
    simp only [Session.step, shown, h.clear]
    rfl
  | report d =>
    simp only [Session.step, shown, h.report]
    rfl
  | recognize source r => simp only [Session.step, shown, recognizeInto, h.reportAll, Sink.reportAll_list]

theorem run_shown : ∀ (steps : List Step) (s : Session (List Diagnostic)),
    (s.shown view).run steps = (s.run steps).map fun answered => (answered.1, view answered.2)
  | [], _ => rfl
  | step :: steps, s => by
    rw [run, step_shown h, run, List.map_cons]
    exact congrArg (_ :: ·) (run_shown steps _)

end Shown

end Session

open Session

/-- **A session takes the same course with either sink.**  With a list of messages it answers every step as it does with a
list of diagnostics, and after every step the messages are those of the diagnostics.  A check leaves the diagnostics of
its own report, with the recovery last set, whatever was in the sink; a recognition and a report only add to it. -/
theorem run_either_sink (c : Checker) (kept : List Diagnostic) (steps : List Step) :
    (⟨c, MessageList.ofDiagnostics kept⟩ : Session MessageList).run steps
      = ((⟨c, kept⟩ : Session (List Diagnostic)).run steps).map
        (fun answered => (answered.1, MessageList.ofDiagnostics answered.2)) ∧
    ∀ i step, steps[i]? = some step → ∃ before answer after,
      ((⟨c, kept⟩ : Session (List Diagnostic)).sinks steps)[i]? = some before ∧
      ((⟨c, kept⟩ : Session (List Diagnostic)).run steps)[i]? = some (answer, after) ∧
      (∀ source, step = .check source →
        answer = .verdict ((c.withRecovery (recoveryAfter c.recovery (steps.take i))).report source).verdict ∧
        after = ((c.withRecovery (recoveryAfter c.recovery (steps.take i))).report source).diagnostics) ∧
      ((∃ source r, step = .recognize source r) ∨ (∃ d, step = .report d) → before <+: after) := by
  refine ⟨run_shown MessageList.shows steps ⟨c, kept⟩, fun i step hstep => ?_⟩
  obtain ⟨hbefore, hafter⟩ := getElem?_run steps (⟨c, kept⟩ : Session (List Diagnostic)) i step hstep
  refine ⟨_, _, _, hbefore, hafter, ?_, ?_⟩
  · rintro source rfl
    have hchecker := checker_after (steps.take i) (⟨c, kept⟩ : Session (List Diagnostic))
    simp only [Session.step, Checker.check_list, hchecker]
    exact ⟨trivial, trivial⟩
  · rintro (⟨source, r, rfl⟩ | ⟨d, rfl⟩)
    · simp only [Session.step, recognizeInto, Sink.reportAll_list]
      exact List.prefix_append _ _
    · exact List.prefix_append _ _

/-- A check under the recovery set two steps before, in a sink with a diagnostic of the step between. -/
theorem run_either_sink_halted :
    [Step.recovery ⟨.halt, 3⟩, .recognize "#" {}, .check "x var int 5 x y"][2]? = some (.check "x var int 5 x y") ∧
    ∃ before answer after,
      ((⟨{}, []⟩ : Session (List Diagnostic)).sinks
        [.recovery ⟨.halt, 3⟩, .recognize "#" {}, .check "x var int 5 x y"])[2]? = some before ∧
      ((⟨{}, []⟩ : Session (List Diagnostic)).run
        [.recovery ⟨.halt, 3⟩, .recognize "#" {}, .check "x var int 5 x y"])[2]? = some (answer, after) ∧
      after.map Diagnostic.message = ["Error de sintaxis en token 'x'"] := by
  obtain ⟨before, answer, after, hbefore, hafter, hcheck, _⟩ := (run_either_sink {} []
    [.recovery ⟨.halt, 3⟩, .recognize "#" {}, .check "x var int 5 x y"]).2 2 _ rfl
  refine ⟨rfl, before, answer, after, hbefore, hafter, ?_⟩
  rw [(hcheck _ rfl).2]
  decide +kernel

end Plantilla
