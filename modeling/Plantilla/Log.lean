import Plantilla.Text.Escape
import Plantilla.Token
/-!
# Log — what a check says about its own course

Each event is a fact about one moment of a check, kept as data; `Event.message` is the only place that words it and
`Event.level` the only place that weighs it.
-/
namespace Plantilla
namespace Log

inductive Level where
  | trace
  | debug
  | info
deriving DecidableEq, Repr

/-- A moment of a check. -/
inductive Event where
  /-- A number did not fit in 64 bits. -/
  | saturated (digits : String)
  | token (t : Token)
  | illegal (c : Char) (offset : Nat)
  /-- The token was matched, and this many are matched now. -/
  | matched (t : Token) (position : Nat)
  /-- A first token narrowed the templates to these. -/
  | commits (kind : Kind) (names : List String)
  /-- The token was refused and reported. -/
  | refused (t : Token) (position : Nat) (names : List String)
  /-- The token was refused silently. -/
  | discarded (t : Token)
  /-- The text ended on a whole template. -/
  | completed (name : String)
  /-- The text ended inside a template. -/
  | ended (position : Nat)
  /-- The text ended before enough tokens had matched again. -/
  | endedQuiet
  | blank
  | accepted (template : Option String)
  /-- The text was rejected, with so many errors of either stage. -/
  | rejected (lexical grammatical : Nat)
deriving DecidableEq, Repr

namespace Event

def level : Event → Level
  | token _ | matched _ _ => .trace
  | blank | accepted _ | rejected _ _ => .info
  | _ => .debug

def templateText : Option String → String
  | some name => "Some(" ++ Text.quoteText name ++ ")"
  | none => "None"

def message : Event → String
  | saturated digits => "integer literal " ++ digits ++ " saturated to u64::MAX"
  | token t => "token " ++ t.display ++ " at " ++ Numeral.text t.span.start ++ ".." ++ Numeral.text t.span.stop
  | illegal c offset => "illegal character " ++ Text.quoteChar c ++ " at " ++ Numeral.text offset
  | matched t position => "matched " ++ t.display ++ " at position " ++ Numeral.text position
  | commits kind names => kind.name ++ " commits to " ++ Text.quoteList names
  | refused t position names =>
    "syntax error at " ++ t.display ++ " (position " ++ Numeral.text position ++ " of " ++ Text.quoteList names
      ++ ")"
  | discarded t => "discarding " ++ t.display ++ " while resynchronizing"
  | completed name => "input matches template '" ++ name ++ "'"
  | ended position => "input ended at position " ++ Numeral.text position
  | endedQuiet => "input ended while resynchronizing"
  | blank => "nothing to check"
  | accepted template => "accepted as " ++ templateText template
  | rejected lexical grammatical =>
    "rejected with " ++ Numeral.text lexical ++ " lexical and " ++ Numeral.text grammatical ++ " syntax errors"

end Event
end Log
end Plantilla
