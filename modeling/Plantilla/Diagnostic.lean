import Plantilla.Scan
/-!
# Diagnostic — a problem found in a text, and who is told

A check never fails: each problem becomes a diagnostic, told in the order in which it is found.  Whoever displays
them is a *sink*: it takes one diagnostic after the other and can be cleared.  Two sinks are used, one that keeps
the diagnostics and one that keeps their messages.
-/
namespace Plantilla

inductive Diagnostic.Stage where
  | lexical
  | grammatical
deriving DecidableEq, Repr

inductive Diagnostic where
  | illegalCharacter (c : Char) (span : Span)
  /-- A token that no live template expects, with the kinds that they do expect. -/
  | unexpectedToken (token : Token) (expected : List Kind)
  | unexpectedEnd (offset : Nat) (expected : List Kind)
deriving DecidableEq, Repr

def Diagnostic.Stage.name : Diagnostic.Stage → String
  | .lexical => "lexical"
  | .grammatical => "syntax"

namespace Diagnostic

def stage : Diagnostic → Stage
  | illegalCharacter _ _ => .lexical
  | unexpectedToken _ _ => .grammatical
  | unexpectedEnd _ _ => .grammatical

/-- Whether the matching found it, and not the scan. -/
def isGrammatical (d : Diagnostic) : Bool := d.stage = .grammatical

/-- The bytes it points at; none at the end of the text. -/
def span : Diagnostic → Span
  | illegalCharacter _ span => span
  | unexpectedToken token _ => token.span
  | unexpectedEnd offset _ => ⟨offset, offset⟩

def expected : Diagnostic → List Kind
  | illegalCharacter _ _ => []
  | unexpectedToken _ expected => expected
  | unexpectedEnd _ expected => expected

def message : Diagnostic → String
  | illegalCharacter c _ => "Illegal character '" ++ String.singleton c ++ "'"
  | unexpectedToken token _ => "Error de sintaxis en token '" ++ token.text ++ "'"
  | unexpectedEnd _ _ => "Error de sintaxis en EOF"

end Diagnostic

/-! ## Sinks -/

/-- Whoever is told the diagnostics. -/
class Sink (σ : Type) where
  report : σ → Diagnostic → σ
  clear : σ → σ

def Sink.reportAll {σ : Type} [Sink σ] (sink : σ) (ds : List Diagnostic) : σ := ds.foldl Sink.report sink

/-- A list keeps the diagnostics as they come. -/
instance : Sink (List Diagnostic) where
  report kept d := kept ++ [d]
  clear _ := []

structure MessageList where
  messages : List String
deriving DecidableEq, Repr

instance : Sink MessageList where
  report kept d := ⟨kept.messages ++ [d.message]⟩
  clear _ := ⟨[]⟩

end Plantilla
