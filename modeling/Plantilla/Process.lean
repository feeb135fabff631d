import Plantilla.Config.Layers
import Plantilla.Report.Render
import Plantilla.Spec
import Plantilla.Token.Dump
/-!
# Process — a text printed by a spec

The tokens of a text are printed as they are; a check runs with the configured recovery and prints with the
configured detail, while the format always comes from the spec.
-/
namespace Plantilla

/-- What was printed, and the verdict if there was a check. -/
structure Processed where
  output : String
  verdict : Option Verdict
deriving DecidableEq, Repr

def Checker.ofConfig (config : Config) : Checker := ⟨Grammar.stock, config.recovery⟩

def process (source : String) (spec : Spec) (config : Config) : Except Failure Processed :=
  match spec.stage with
  | .tokens => (dump source spec.format).map fun output => ⟨output, none⟩
  | .check =>
    let report := (Checker.ofConfig config).report source
    (report.render source config.showExpected spec.format).map fun output => ⟨output, some report.verdict⟩

def processFile (files : Files) (path : String) (spec : Spec) (config : Config) : Except Failure Processed := do
  let source ← files.readText path
  process source spec config

end Plantilla
