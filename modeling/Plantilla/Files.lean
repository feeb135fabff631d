import Plantilla.Failure
/-!
# Files — what can be read

The library never opens a file: it asks a table what stands at a path, and whoever calls it fills the table.
-/
namespace Plantilla

inductive Files.Found where
  | file (bytes : ByteArray)
  | missing
  /-- Something stands in the way of reading. -/
  | refused (fault : ReadFault)

/-- What stands at each path. -/
structure Files where
  find : String → Files.Found

namespace Files

def decode? (bytes : ByteArray) : Option String := String.fromUTF8? bytes

def readText (files : Files) (path : String) : Except Failure String :=
  match files.find path with
  | .missing => .error (.fileNotFound path)
  | .refused fault => .error (.unreadable fault)
  | .file bytes =>
    match decode? bytes with
    | some s => .ok s
    | none => .error (.unreadable .notText)

end Files

/-! ## The parts of a path -/

namespace Path

def splitSlash : List Char → List (List Char)
  | [] => [[]]
  | c :: cs =>
    match splitSlash cs with
    | [] => [[c]]
    | part :: parts => if c = '/' then [] :: part :: parts else (c :: part) :: parts

/-- The parts of a path, empty ones included. -/
def parts (path : String) : List String := (splitSlash path.toList).map String.ofList

/-- A part that stays where it is. -/
def staysPut (part : String) : Bool := part == "" || part == "."

def names (path : String) : List String := (parts path).filter fun part => !staysPut part

def isAbsolute (path : String) : Bool := path.toList.head? = some '/'

def join (absolute : Bool) (names : List String) : String :=
  (if absolute then "/" else "") ++ "/".intercalate names

/-- The same path without the parts that stay where they are. -/
def tidy (path : String) : String := join (isAbsolute path) (names path)

/-- The path with an ending appended to its last name, if it ends in a name. -/
def withEnding? (ending path : String) : Option String :=
  match (names path).reverse with
  | [] => none
  | last :: before =>
    if last = ".." then none else some (join (isAbsolute path) ((last ++ ending) :: before).reverse)

end Path
end Plantilla
