import Plantilla.Yaml.Scalar
/-!
# Reader — a scalar back to its text

What a scalar says of its own end: a quoted text ends at its closing quote, a plain one at the end of its line, and a
literal block at the first line that is not indented as deep as its own.  In a quoted text and in a block the indent
that a break calls for is not part of the text.  The reader takes what `Yaml.scalar` writes and no more of YAML: a
break is never folded, and a line is indented by a number of spaces that is known beforehand.
-/
namespace Plantilla
namespace Yaml

/-! ## Between double quotes -/

/-- The escapes of one letter, and what they stand for. -/
def shortEscapes : List (Char × Char) :=
  [('0', '\x00'), ('a', '\x07'), ('b', '\x08'), ('t', '\t'), ('n', '\n'), ('v', '\x0b'), ('f', '\x0c'), ('r', '\r'),
   ('e', '\x1b'), ('"', '"'), ('\\', '\\'), ('N', '\x85'), ('L', '\u2028'), ('P', '\u2029')]

/-- The number of hexadecimal digits behind a letter. -/
def hexWidth? : Char → Option Nat
  | 'x' => some 2
  | 'u' => some 4
  | 'U' => some 8
  | _ => none

/-- The character behind a backslash, and what follows it. -/
def readEscape : List Char → Option (Char × List Char)
  | [] => none
  | e :: r =>
    match hexWidth? e with
    | some width => (numberIn? 16 (r.take width)).map fun n => (Char.ofNat n, r.drop width)
    | none => (shortEscapes.lookup e).map fun c => (c, r)

/-- The characters up to the closing quote, and what follows it; `fuel` bounds their number. -/
def readDouble : Nat → List Char → Option (List Char × List Char)
  | 0, _ => none
  | _, [] => none
  | fuel + 1, c :: r =>
    if c = '"' then some ([], r)
    else if c = '\\' then
      (readEscape r).bind fun p => (readDouble fuel p.2).map fun q => (p.1 :: q.1, q.2)
    else (readDouble fuel r).map fun q => (c :: q.1, q.2)

/-! ## Between single quotes, and in a block -/

/-- The characters up to the closing quote, and what follows it.  `skip` more characters of an indent are ahead. -/
def readSingle (indent : Nat) : Nat → List Char → Option (List Char × List Char)
  | _, [] => none
  | skip, c :: r =>
    if isBreak c then (readSingle indent indent r).map fun q => (c :: q.1, q.2)
    else
      match skip with
      | skip + 1 => readSingle indent skip r
      | 0 =>
        if c = '\x27' then
          match r with
          | '\x27' :: r => (readSingle indent 0 r).map fun q => (c :: q.1, q.2)
          | r => some ([], r)
        else (readSingle indent 0 r).map fun q => (c :: q.1, q.2)

/-- The characters of the lines that are blank or indented deep enough, and what follows them. `skip` more characters
of an indent are ahead; where the indent stops short, it belongs to what follows. -/
def readLiteral (indent : Nat) : Nat → List Char → List Char × List Char
  | skip, [] => ([], pad (indent - skip))
  | skip, c :: r =>
    if isBreak c then
      let q := readLiteral indent indent r
      (c :: q.1, q.2)
    else
      match skip with
      | skip + 1 => if c = ' ' then readLiteral indent skip r else ([], pad (indent - (skip + 1)) ++ c :: r)
      | 0 =>
        let q := readLiteral indent 0 r
        (c :: q.1, q.2)

/-! ## Scalars -/

/-- A text that ended in its line, and what follows the line. -/
def endLine : List Char × List Char → Option (String × List Char)
  | (cs, '\n' :: r) => some (String.ofList cs, r)
  | _ => none

/-- The text of the scalar at the head, to the end of its last line, and what follows it. -/
def readScalar (indent : Nat) : List Char → Option (String × List Char)
  | [] => none
  | c :: r =>
    if c = '"' then (readDouble (r.length + 1) r).bind endLine
    else if c = '\x27' then (readSingle indent 0 r).bind endLine
    else if c = '|' then
      let hints := r.takeWhile (· != '\n')
      let q := readLiteral indent indent (r.dropWhile (· != '\n')).tail
      -- the last break is not part of the text where the bar says so
      some (String.ofList (if hints.contains '-' then q.1.dropLast else q.1), q.2)
    else endLine ((c :: r).span (· != '\n'))

end Yaml
end Plantilla
