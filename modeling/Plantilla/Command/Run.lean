import Plantilla.Command
import Plantilla.Process
/-!
# Run — what a command prints and how it ends

A command ends with 0, with 1 if a text was rejected, and with 2 if it could not do its work; then it prints nothing
but a complaint.  It breaks off with 101 if a key of the configuration leads to a place that no list can have.  A
check loads its configuration first, then looks whether a check can be printed in the configured format, and only then
reads the text, so a fault of the configuration hides one of the text.  A dump reads no configuration.
-/
namespace Plantilla

/-- What a command prints, and its exit code. -/
structure Outcome where
  code : Nat
  stdout : String
  stderr : String
deriving DecidableEq, Repr

namespace Outcome

def done (stdout : String) : Outcome := ⟨0, stdout, ""⟩

def failed (message : String) : Outcome := ⟨2, "", "Error: " ++ message ++ "\n"⟩

/-- An end in the middle of the work. -/
def broken (message : String) : Outcome := ⟨101, "", message ++ "\n"⟩

def faulted : Config.Fault → Outcome
  | .unreachablePlace => broken Config.Fault.unreachablePlace.message
  | fault => failed fault.message

def misuse : Outcome :=
  ⟨2, "",
   "usage: analizador check PATH [--format FORMAT] [--config FILE] [--halt]\n"
   ++ "       analizador tokens PATH [--format FORMAT]\n"
   ++ "       analizador templates\n"⟩

end Outcome

namespace Command

/-- The configuration file that is read if it is there. -/
def localConfig : String := "analizador.toml"

def layers (format config : Option String) (halt : Bool) : List Config.Layer :=
  [.file localConfig false]
    ++ (config.toList.map fun path => .file path true)
    ++ (if halt then [.override "recovery.mode" (.scalar none (.text "halt"))] else [])
    ++ (format.toList.map fun name => .override "output.format" (.scalar none (.text name)))

/-- The text on the standard input; or the complaint. -/
def readStdin (stdin : ByteArray) : Except String String :=
  match Files.decode? stdin with
  | some s => .ok s
  | none => .error ("reading stdin: " ++ ReadFault.notText.message)

/-- The text at a path, a single hyphen standing for the standard input; or the complaint. -/
def readSource (files : Files) (stdin : ByteArray) (path : String) : Except String String :=
  if path = "-" then readStdin stdin else (files.readText path).mapError Failure.message

/-- What a spec makes of the text at a path, or on the standard input; or the complaint. -/
def processInput (files : Files) (stdin : ByteArray) (path : String) (spec : Spec) (config : Config) :
    Except String Processed :=
  if path = "-" then do
    let source ← readStdin stdin
    (process source spec config).mapError Failure.message
  else (processFile files path spec config).mapError Failure.message

def exitCode : Option Verdict → Nat
  | some .rejected => 1
  | _ => 0

def runCheck (files : Files) (stdin : ByteArray) (path : String) (format config : Option String) (halt : Bool) :
    Outcome :=
  match Config.load files (layers format config halt) with
  | .error fault => .faulted fault
  | .ok config =>
    match Spec.make .check config.format with
    | .error failure => .failed failure.message
    | .ok spec =>
      match processInput files stdin path spec config with
      | .error message => .failed message
      | .ok processed => ⟨exitCode processed.verdict, processed.output, ""⟩

def runTokens (files : Files) (stdin : ByteArray) (path : String) (format : Option String) : Outcome :=
  let name := format.getD Format.simple.name
  let unknown :=
    "unknown tokens format '" ++ name ++ "' (available: " ++ ", ".intercalate (Spec.available.map Spec.display) ++ ")"
  match (Format.ofName? name).filter Stage.tokens.supports with
  | none => .failed unknown
  | some format =>
    match readSource files stdin path with
    | .error message => .failed message
    | .ok source =>
      match dump source format with
      | .error failure => .failed failure.message
      | .ok output => .done output

def listLine (s : String) : String := "  " ++ s ++ "\n"

/-- A word with spaces behind it, ten characters wide. -/
def padWord (s : String) : String := s ++ String.ofList (List.replicate (10 - s.toList.length) ' ')

def templatesText : String :=
  let g := Grammar.stock
  "Templates of '" ++ g.start ++ "' (" ++ ", ".intercalate g.templateNames ++ "):\n\n"
    ++ String.join (g.productions.map fun p => listLine p.display)
    ++ "\nA program starts with: " ++ " or ".intercalate (g.firstKinds.map Kind.name) ++ "\n"
    ++ "\nDefined but unreachable:\n\n"
    ++ String.join (g.detached.map fun p => listLine p.display)
    ++ "\nReserved words:\n\n"
    ++ String.join (Reserved.table.map fun p => listLine (padWord p.1 ++ " " ++ p.2.name))

def run (files : Files) (stdin : ByteArray) : Command → Outcome
  | version => .done "analizador 0.1.0\n"
  | check path format config halt => runCheck files stdin path format config halt
  | tokens path format => runTokens files stdin path format
  | templates => .done templatesText

def runArguments (files : Files) (stdin : ByteArray) (arguments : List String) : Outcome :=
  match parse? arguments with
  | none => .misuse
  | some command => command.run files stdin

/-! ## What a command reads -/

/-- Every path that a command may look at. -/
def paths : Command → List String
  | check path _ config _ =>
    let configs := localConfig :: config.toList
    path :: configs ++ configs.filterMap (Path.withEnding? Config.ending)
  | tokens path _ => [path]
  | _ => []

def readsStdin : Command → Bool
  | check path _ _ _ => path = "-"
  | tokens path _ => path = "-"
  | _ => false

end Command
end Plantilla
