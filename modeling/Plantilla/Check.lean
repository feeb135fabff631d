import Plantilla.Grammar.Stock
import Plantilla.Matching
import Plantilla.Text.Blank
/-!
# Check — one text, one verdict

A check clears its sink, looks away from the blank characters around the text, scans what is left and matches it.  A
blank text has nothing to check.  Any other text is accepted if a template is complete and nothing at all was
reported, and rejected otherwise.
-/
namespace Plantilla

inductive Verdict where
  /-- A template matched and nothing was reported. -/
  | accepted
  | rejected
  | empty
deriving DecidableEq, Repr

namespace Verdict

def name : Verdict → String
  | accepted => "accepted"
  | rejected => "rejected"
  | empty => "empty"

/-- The message shown to the student. -/
def message : Verdict → String
  | accepted => "La sintaxis es correcta."
  | rejected => "Se encontraron errores de sintaxis."
  | empty => "No hay código para verificar."

end Verdict

structure Report where
  verdict : Verdict
  template : Option String
  diagnostics : List Diagnostic
deriving DecidableEq, Repr

namespace Report

def accepted (r : Report) : Bool := r.verdict = .accepted

def messages (r : Report) : List String := r.diagnostics.map Diagnostic.message

end Report

/-- The items of a text without the blank characters around it; none for a blank text.  Spans count from the start
of the whole text. -/
def innerItems (source : String) : Option (List Item) :=
  let body := Text.trimEnd source.toList
  if body = [] then none
  else some (Scanner.startingAt body (Text.byteLength (Text.leadingBlanks body))).items

def Recognition.conclude (r : Recognition) : Verdict × Option String :=
  if r.accepted then (.accepted, r.matched.map Production.name) else (.rejected, none)

/-- A grammar, and how matching goes on after an error. -/
structure Checker where
  grammar : Grammar := Grammar.stock
  recovery : Recovery := {}

namespace Checker

/-- Check a text, telling the sink what was found; the sink is cleared first. -/
def check {σ : Type} [Sink σ] (c : Checker) (source : String) (sink : σ) : (Verdict × Option String) × σ :=
  let sink := Sink.clear sink
  match innerItems source with
  | none => ((.empty, none), sink)
  | some items =>
    let (recognition, sink) := recognizeInto c.grammar c.recovery items sink
    (recognition.conclude, sink)

def report (c : Checker) (source : String) : Report :=
  let ((verdict, template), diagnostics) := c.check source ([] : List Diagnostic)
  ⟨verdict, template, diagnostics⟩

/-! ## The log of a check -/

/-- The characters of a token in a text of these characters. -/
def lexemeOf (cs : List Char) (t : Token) : String :=
  String.ofList ((Text.slice? t.span.start t.span.stop cs).getD [])

/-- The log events of the scan that gave an item of a text of these characters. -/
def scanned (cs : List Char) : Item → List Log.Event
  | .token t => (if t.isSaturated then [.saturated (lexemeOf cs t)] else []) ++ [.token t]
  | .illegal c span => [.illegal c span.start]

def closing (r : Recognition) : Log.Event :=
  if r.accepted then .accepted (r.matched.map Production.name)
  else .rejected r.lexicalErrors r.grammaticalErrors

def log (c : Checker) (source : String) : List Log.Event :=
  match innerItems source with
  | none => [.blank]
  | some items =>
    (Matcher.start c.grammar).notes c.grammar c.recovery (scanned source.toList) items
      ++ [closing (recognize c.grammar c.recovery items)]

end Checker
end Plantilla
