import Plantilla.Text.LowerCase
/-!
# Setting — the tree of settings that layers build up

A setting is a scalar, a list or a table.  Each remembers the file it came from, so that a complaint can name it; a
table that was made to hold others came from nowhere.  Keys are put into tables in lower case.

`put` merges: a table set at a key is laid over what stands there field by field, all else replaces it.  `assign?`
does the same at the end of a path and makes what is missing on the way; it fails only if the path goes through a
place that a list neither has nor can be given.
-/
namespace Plantilla

/-- A setting without parts. -/
inductive Scalar where
  | nothing
  | truth (b : Bool)
  | integer (n : Int)
  | real (x : Float)
  | text (s : String)

/-- A setting, with the file it came from. -/
inductive Setting where
  | scalar (origin : Option String) (value : Scalar)
  | list (origin : Option String) (items : List Setting)
  | table (origin : Option String) (fields : List (String × Setting))

namespace Setting

def origin : Setting → Option String
  | scalar origin _ => origin
  | list origin _ => origin
  | table origin _ => origin

def nothing : Setting := scalar none .nothing

def emptyTable : Setting := table none []

/-- The fields of a table; none of anything else. -/
def fields : Setting → List (String × Setting)
  | table _ fields => fields
  | _ => []

/-- The items of a list; none of anything else. -/
def items : Setting → List Setting
  | list _ items => items
  | _ => []

/-- The setting itself if it is a table, and an empty table otherwise. -/
def asTable : Setting → Setting
  | table origin fields => table origin fields
  | _ => emptyTable

/-- The fields with a key set, in its place or at the end. -/
def setField (key : String) (v : Setting) : List (String × Setting) → List (String × Setting)
  | [] => [(key, v)]
  | (k, w) :: fields => if k = key then (k, v) :: fields else (k, w) :: setField key v fields

/-- The setting made a table, with a key of it set outright. -/
def setKey (key : String) (v : Setting) (root : Setting) : Setting :=
  table root.asTable.origin (setField key v root.fields)

mutual

/-- The setting made a table, with a key of it merged: a table is laid over what stands at the key, all else replaces
it. -/
def put (root : Setting) (key : String) : Setting → Setting
  | table _ incoming =>
    let name := Text.lowerCase key
    setKey name (putAll ((root.fields.lookup name).getD emptyTable) incoming) root
  | v => setKey (Text.lowerCase key) v root

def putAll (root : Setting) : List (String × Setting) → Setting
  | [] => root
  | (key, v) :: fields => putAll (put root key v) fields

end

/-! ## Paths -/

/-- A step down: to a key of a table, or to a place in a list, counted from its end if the number is negative. -/
inductive PathStep where
  | key (name : String)
  | index (i : Int)
deriving DecidableEq, Repr

/-- The longest list that can be made by setting a place in it. -/
def lengthLimit : Nat := Nat.pow 2 28

/-- The place in a list of some length that a number means; there is no limit to how far it lies behind the end but
`lengthLimit`, and a place before the start is none. -/
def place? (length : Nat) : Int → Option Nat
  | .ofNat i => if i < lengthLimit then some i else none
  | .negSucc i => if i < length then some (length - (i + 1)) else none

/-- The items of a list with one replaced; places that are missing before it stand for nothing. -/
def setItem (i : Nat) (v : Setting) (items : List Setting) : List Setting :=
  (items ++ List.replicate (i + 1 - items.length) nothing).set i v

/-- The origin of a list; nothing else can lend a list its origin. -/
def listOrigin : Setting → Option String
  | list origin _ => origin
  | _ => none

/-- The setting with a value at a path below it: what is missing on the way is made, what is of the wrong shape is
replaced. -/
def assign? (v : Setting) : List PathStep → Setting → Option Setting
  | [], _ => some v
  | [.key key], root => some (put root key v)
  | .key key :: path, root =>
    let name := Text.lowerCase key
    (assign? v path ((root.fields.lookup name).getD nothing)).map fun child => setKey name child root
  | .index i :: path, root =>
    match place? root.items.length i with
    | none => none
    | some i =>
      (assign? v path ((root.items[i]?).getD nothing)).map fun child =>
        list root.listOrigin (setItem i child root.items)

end Setting
end Plantilla
