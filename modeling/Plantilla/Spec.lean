import Plantilla.Failure
import Plantilla.Format
/-!
# Spec — a stage with a format that it supports

A spec is written `stage-format`, split at the first hyphen.  That the stage supports the format is a field, so
whoever holds a spec can print by it without failing.
-/
namespace Plantilla

/-- A stage, and a format in which it can be printed. -/
structure Spec where
  stage : Stage
  format : Format
  supported : stage.supports format = true
deriving DecidableEq, Repr

namespace Spec

def unsupported (stage : Stage) (format : Format) : String :=
  "Format '" ++ format.name ++ "' not supported for " ++ stage.name ++ " stage (only "
    ++ (match stage with
      | .tokens => "'simple' and 'json'"
      | .check => "'text', 'json' and 'yaml'")
    ++ " are supported)"

def make (stage : Stage) (format : Format) : Except Failure Spec :=
  if h : stage.supports format = true then .ok ⟨stage, format, h⟩
  else .error (.invalidFormatType (unsupported stage format))

/-- The parts before and after the first hyphen. -/
def splitHyphen (cs : List Char) : Option (List Char × List Char) :=
  match cs.dropWhile (· != '-') with
  | [] => none
  | _ :: rest => some (cs.takeWhile (· != '-'), rest)

def parse (s : String) : Except Failure Spec :=
  match splitHyphen s.toList with
  | none => .error (.invalidFormat s)
  | some (stage, format) =>
    match Stage.ofName? (String.ofList stage) with
    | none => .error (.invalidStage (String.ofList stage))
    | some st =>
      match Format.ofName? (String.ofList format) with
      | none => .error (.invalidFormatType (String.ofList format))
      | some f => make st f

def display (s : Spec) : String := s.stage.name ++ "-" ++ s.format.name

def available : List Spec :=
  [⟨.check, .text, rfl⟩, ⟨.check, .json, rfl⟩, ⟨.check, .yaml, rfl⟩, ⟨.tokens, .simple, rfl⟩, ⟨.tokens, .json, rfl⟩]

end Spec
end Plantilla
