import Plantilla.Check
/-!
# Session — several checks on one sink

A session keeps one checker and one sink through a list of steps.  A check starts from a cleared sink; a bare
recognition and a hand-made report only add to it.  The sink is a parameter, so a session that keeps diagnostics and
one that keeps messages take the same steps.
-/
namespace Plantilla

inductive Step where
  | check (source : String)
  | recovery (r : Recovery)
  | clear
  | report (d : Diagnostic)
  /-- Match all items of a text, untrimmed and with a recovery of its own. -/
  | recognize (source : String) (r : Recovery)
deriving DecidableEq, Repr

inductive Answer where
  | nothing
  | verdict (v : Verdict)
  | recognition (r : Recognition)
deriving DecidableEq, Repr

structure Session (σ : Type) where
  checker : Checker
  sink : σ

namespace Session

def step {σ : Type} [Sink σ] (s : Session σ) : Step → Answer × Session σ
  | .check source =>
    let ((verdict, _), sink) := s.checker.check source s.sink
    (.verdict verdict, { s with sink := sink })
  | .recovery r => (.nothing, { s with checker := { s.checker with recovery := r } })
  | .clear => (.nothing, { s with sink := Sink.clear s.sink })
  | .report d => (.nothing, { s with sink := Sink.report s.sink d })
  | .recognize source r =>
    let (recognition, sink) := recognizeInto s.checker.grammar r (scan source) s.sink
    (.recognition recognition, { s with sink := sink })

/-- Take steps in order: each answer, with the sink as the step left it. -/
def run {σ : Type} [Sink σ] (s : Session σ) : List Step → List (Answer × σ)
  | [] => []
  | step :: steps =>
    let (answer, s) := s.step step
    (answer, s.sink) :: run s steps

end Session
end Plantilla
