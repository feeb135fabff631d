import Plantilla.Toml.Number
import Plantilla.Toml.Slot
/-!
# Reader — keys and values of a TOML file

Each reader looks at the head of the text and gives what it read with what follows.  Fuel bounds the recursion
between values, items and fields (twice the length of the text is always enough); nesting has a limit of its own.
-/
namespace Plantilla
namespace Toml

/-- One more than the deepest nesting that is read, and than the longest dotted key. -/
def depthLimit : Nat := 80

/-! ## Keys -/

def isBareKey (c : Char) : Bool :=
  ('a' ≤ c && c ≤ 'z') || ('A' ≤ c && c ≤ 'Z') || Numeral.isDigit c || c == '-' || c == '_'

/-- One part of a key, bare or between quotes. -/
def keyPart? : List Char → Option (String × List Char)
  | '"' :: r => (basicString r).map fun p => (String.ofList p.1, p.2)
  | '\x27' :: r => (literalString r).map fun p => (String.ofList p.1, p.2)
  | cs =>
    match cs.takeWhile isBareKey with
    | [] => none
    | key => some (String.ofList key, cs.dropWhile isBareKey)

/-- At most so many parts of a dotted key, the space around each passed over. -/
def keyParts? : Nat → List Char → Option (List String × List Char)
  | 0, _ => none
  | fuel + 1, cs => do
    let (part, r) ← keyPart? (skipSpace cs)
    match skipSpace r with
    | '.' :: r =>
      let (parts, r) ← keyParts? fuel r
      some (part :: parts, r)
    | r => some ([part], r)

def key? (cs : List Char) : Option (List String × List Char) := keyParts? (depthLimit - 1) cs

/-! ## Values -/

/-- What follows space, comments and line breaks, as they may stand inside an array. -/
def skipLines : Nat → List Char → List Char
  | 0, cs => cs
  | fuel + 1, cs =>
    match lineBreak? (skipComment (skipSpace cs)) with
    | some r => skipLines fuel r
    | none => skipSpace cs

/-- A value without parts: a truth value, a moment or a number. -/
def simpleValue? (cs : List Char) : Option (Value × List Char) :=
  match cs with
  | 't' :: 'r' :: 'u' :: 'e' :: r => some (.truth true, r)
  | 'f' :: 'a' :: 'l' :: 's' :: 'e' :: r => some (.truth false, r)
  | _ =>
    match moment? cs with
    | some (m, r) => some (.moment m, r)
    | none =>
      match float? cs with
      | some (x, r) => some (.float x, r)
      | none => (integer? cs).map fun p => (.integer p.1, p.2)

mutual

/-- The value at the head, inside so many arrays and inline tables. -/
def value? : Nat → Nat → List Char → Option (Value × List Char)
  | 0, _, _ => none
  | fuel + 1, depth, cs =>
    match cs with
    | '"' :: _ => (string? cs).map fun p => (.text (String.ofList p.1), p.2)
    | '\x27' :: _ => (string? cs).map fun p => (.text (String.ofList p.1), p.2)
    | '[' :: r =>
      if depthLimit ≤ depth + 1 then none
      else (items? fuel (depth + 1) (skipLines r.length r)).map fun p => (.array p.1, p.2)
    | '\x7b' :: r =>
      if depthLimit ≤ depth + 1 then none
      else
        match skipSpace r with
        | '\x7d' :: r => some (.table [], r)
        | r => (fields? fuel (depth + 1) [] r).map fun p => (.table (Slot.toFields p.1), p.2)
    | _ => simpleValue? cs

/-- The items up to the closing bracket; a comma may follow the last. -/
def items? : Nat → Nat → List Char → Option (List Value × List Char)
  | 0, _, _ => none
  | fuel + 1, depth, cs =>
    match cs with
    | ']' :: r => some ([], r)
    | _ =>
      match value? fuel depth cs with
      | none => none
      | some (v, r) =>
        match skipLines r.length r with
        | ',' :: r => (items? fuel depth (skipLines r.length r)).map fun p => (v :: p.1, p.2)
        | ']' :: r => some ([v], r)
        | _ => none

/-- The fields up to the closing brace, at least one, added to those already read. -/
def fields? : Nat → Nat → Fields → List Char → Option (Fields × List Char)
  | 0, _, _, _ => none
  | fuel + 1, depth, before, cs =>
    match key? cs with
    | some (path, '=' :: r) =>
      match value? fuel depth (skipSpace r) with
      | none => none
      | some (v, r) =>
        match before.insert path v with
        | none => none
        | some now =>
          match skipSpace r with
          | ',' :: r => fields? fuel depth now r
          | '\x7d' :: r => some (now, r)
          | _ => none
    | _ => none

end

/-- The value at the head of the text behind an equals sign. -/
def valueAt? (cs : List Char) : Option (Value × List Char) := value? (2 * cs.length + 2) 0 cs

end Toml
end Plantilla
