import Plantilla.Toml.Reader
/-!
# Document — a TOML file line by line

A line is empty, sets a key, or is the header of a table or of one more element of a list of tables; a comment may
end it.  Whatever is wrong with a file, it is refused as a whole.
-/
namespace Plantilla
namespace Toml

/-- A file being read: the path of the last header, and the fields so far. -/
structure Document where
  header : List String
  fields : Fields

namespace Document

def start : Document := ⟨[], []⟩

/-- The header of a list of tables behind its two brackets. -/
def elementLine? (d : Document) (cs : List Char) : Option (Document × List Char) := do
  let (path, r) ← key? cs
  match r with
  | ']' :: ']' :: r =>
    let fields ← d.fields.addElement path
    let r ← finishLine? r
    some (⟨path, fields⟩, r)
  | _ => none

/-- The header of a table behind its bracket. -/
def tableLine? (d : Document) (cs : List Char) : Option (Document × List Char) := do
  let (path, r) ← key? cs
  match r with
  | ']' :: r =>
    let fields ← d.fields.define path
    let r ← finishLine? r
    some (⟨path, fields⟩, r)
  | _ => none

/-- A line that sets a key. -/
def keyLine? (d : Document) (cs : List Char) : Option (Document × List Char) := do
  let (path, r) ← key? cs
  match r with
  | '=' :: r =>
    let (v, r) ← valueAt? (skipSpace r)
    let fields ← d.fields.insertIn d.header path v
    let r ← finishLine? r
    some ({ d with fields := fields }, r)
  | _ => none

/-- One line, the space in front of it passed over. -/
def line? (d : Document) (cs : List Char) : Option (Document × List Char) :=
  match cs with
  | '#' :: _ => (finishLine? cs).map fun r => (d, r)
  | '\n' :: r => some (d, r)
  | '\r' :: '\n' :: r => some (d, r)
  | '[' :: '[' :: r => d.elementLine? r
  | '[' :: r => d.tableLine? r
  | _ => d.keyLine? cs

/-- All lines; each takes at least one character. -/
def lines? : Nat → Document → List Char → Option Document
  | 0, d, cs => if skipSpace cs = [] then some d else none
  | fuel + 1, d, cs =>
    match skipSpace cs with
    | [] => some d
    | cs => (d.line? cs).bind fun p => lines? fuel p.1 p.2

end Document

/-- The value of a whole file: a table, unless that table is a moment in disguise.  A mark of the byte order may stand
in front. -/
def parse? (s : String) : Option Value := do
  let cs := match s.toList with
    | '\ufeff' :: cs => cs
    | cs => cs
  let d ← Document.lines? cs.length .start cs
  (Value.table (Slot.toFields d.fields)).settle?

end Toml
end Plantilla
