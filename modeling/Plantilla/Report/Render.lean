import Plantilla.Failure
import Plantilla.Format
import Plantilla.Report.Records
/-!
# Render — a report in a format

As text, each diagnostic is a line: where it starts, its message, and, if wanted, what was expected; the verdict's
message closes.  The structured formats show the same as data.  The simple format is for tokens only.
-/
namespace Plantilla
namespace Report

/-- What was expected, in words; nothing for nothing. -/
def describeExpected : List Kind → String
  | [] => ""
  | [k] => " (expected " ++ k.name ++ ")"
  | kinds => " (expected one of " ++ ", ".intercalate (kinds.map Kind.name) ++ ")"

/-- The line of a diagnostic, without its end. -/
def line (index : LineIndex) (showExpected : Bool) (d : Diagnostic) : String :=
  (index.position d.span.start).display ++ ": " ++ d.message
    ++ if showExpected then describeExpected d.expected else ""

def toText (source : String) (showExpected : Bool) (r : Report) : String :=
  let index := LineIndex.ofChars source.toList
  String.join (r.diagnostics.map fun d => line index showExpected d ++ "\n") ++ r.verdict.message ++ "\n"

def render (source : String) (showExpected : Bool) (r : Report) : Format → Except Failure String
  | .text => .ok (r.toText source showExpected)
  | .json => .ok (r.toJson source).pretty
  | .yaml => .ok (r.toYaml source)
  | .simple => .error (.invalidFormatType "simple format only works with tokens stage")

end Report
end Plantilla
