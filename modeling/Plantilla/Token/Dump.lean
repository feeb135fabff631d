import Plantilla.Failure
import Plantilla.Format
import Plantilla.Json
import Plantilla.Position
import Plantilla.Scan
import Plantilla.Text.Escape
/-!
# Dump — the items of a text, printed

The simple dump has a line for every item, illegal characters included, and a newline inside a token is written as
`\n`, so no item spills over its line.  The JSON dump has the tokens only.
-/
namespace Plantilla

/-- A text with every newline written as `\n`. -/
def visibleNewlines (s : String) : String :=
  String.ofList (s.toList.flatMap fun c => if c = '\n' then ['\\', 'n'] else [c])

/-- The line of an item, without its end. -/
def Item.line (index : LineIndex) (item : Item) : String :=
  (index.position item.span.start).display ++ " "
    ++ match item with
      | .token t => t.kind.name ++ " " ++ visibleNewlines t.text
      | .illegal c _ => "ILLEGAL " ++ String.ofList (Text.escapeChar c)

/-- A line for each item of a text. -/
def dumpLines (source : String) : String :=
  let index := LineIndex.ofChars source.toList
  String.join ((scan source).map fun item => item.line index ++ "\n")

def Span.toJson (s : Span) : Json := .object [("start", .integer s.start), ("end", .integer s.stop)]

def Token.Value.toJson : Token.Value → Json
  | .integer n => .integer n
  | .text s => .string s

def Token.toJson (t : Token) : Json :=
  .object [("kind", .string t.kind.name), ("value", t.value.toJson), ("span", t.span.toJson)]

def tokensJson (source : String) : Json := .array ((tokenize source).map Token.toJson)

def dump (source : String) : Format → Except Failure String
  | .simple => .ok (dumpLines source)
  | .json => .ok (tokensJson source).pretty
  | format => .error (.invalidFormatType (format.name ++ " format only works with check stage"))

end Plantilla
