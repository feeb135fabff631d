import Plantilla.Check
import Plantilla.Json
import Plantilla.Position
import Plantilla.Yaml.Scalar
/-!
# Records — a report as structured data

The structured formats show the same facts: the verdict with its message, the template, and of each diagnostic its
stage, its message, where it starts as line and column, and what was expected there, if anything was.
-/
namespace Plantilla

/-- What the structured formats show of a diagnostic. -/
structure Report.Entry where
  stage : Diagnostic.Stage
  message : String
  position : Position
  expected : List Kind
deriving DecidableEq, Repr

namespace Report

def entryOf (index : LineIndex) (d : Diagnostic) : Entry :=
  ⟨d.stage, d.message, index.position d.span.start, d.expected⟩

def entries (source : String) (r : Report) : List Entry :=
  let index := LineIndex.ofChars source.toList
  r.diagnostics.map (entryOf index)

/-! ## As JSON -/

/-- An entry as an object; nothing expected leaves no field. -/
def Entry.toJson (e : Entry) : Json :=
  .object
    ([("kind", .string e.stage.name), ("message", .string e.message),
      ("line", .integer e.position.line), ("column", .integer e.position.column)]
      ++ if e.expected = [] then [] else [("expected", .array (e.expected.map fun k => .string k.name))])

def toJson (source : String) (r : Report) : Json :=
  .object
    [("verdict", .string r.verdict.name), ("accepted", .bool r.accepted),
     ("message", .string r.verdict.message),
     ("template", match r.template with
       | some name => .string name
       | none => .null),
     ("diagnostics", .array ((r.entries source).map Entry.toJson))]

/-! ## As YAML -/

/-- The lines of the kinds expected at an entry. -/
def expectedLines (kinds : List Kind) : List Char :=
  if kinds = [] then []
  else "  expected:\n".toList ++ kinds.flatMap fun k => "  - ".toList ++ k.name.toList ++ ['\n']

/-- The lines of an entry, as an item of a sequence. -/
def Entry.toYaml (e : Entry) : List Char :=
  "- ".toList ++ Yaml.wordEntry "kind" e.stage.name ++ "  ".toList ++ Yaml.entry "message" 4 e.message
    ++ "  ".toList ++ Yaml.wordEntry "line" (Numeral.text e.position.line)
    ++ "  ".toList ++ Yaml.wordEntry "column" (Numeral.text e.position.column)
    ++ expectedLines e.expected

def toYaml (source : String) (r : Report) : String :=
  String.ofList
    (Yaml.wordEntry "verdict" r.verdict.name
      ++ Yaml.wordEntry "accepted" (if r.accepted then "true" else "false")
      ++ Yaml.entry "message" 2 r.verdict.message
      ++ (match r.template with
        | some name => Yaml.entry "template" 2 name
        | none => Yaml.wordEntry "template" "null")
      ++ (if r.diagnostics = [] then Yaml.wordEntry "diagnostics" "[]"
        else "diagnostics:\n".toList ++ (r.entries source).flatMap Entry.toYaml))

end Report
end Plantilla
