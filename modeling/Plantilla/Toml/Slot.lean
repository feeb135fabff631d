import Plantilla.Toml.Value
/-!
# Slot — tables while they are being filled

No key is set twice and no table is defined twice.  A table can be made by its own header, by dotted keys, or in
passing by the header of a table inside it, and that decides what may come later: a header may define a table that
was so far only passed through; dotted keys may extend a table that dotted keys made; a table in braces is a value
and closed.  A list of tables is filled at its last element.

Fields keep the order in which their keys were first set, save that a header moves the table that it defines to the
end.
-/
namespace Plantilla
namespace Toml

inductive Form where
  | header
  /-- By the header of a table inside it. -/
  | passed
  | dotted
deriving DecidableEq, Repr

inductive Slot where
  | value (v : Value)
  | table (form : Form) (fields : List (String × Slot))
  | tables (elements : List (List (String × Slot)))

abbrev Fields := List (String × Slot)

def Fields.replace (key : String) (slot : Slot) : Fields → Fields
  | [] => []
  | (k, s) :: fields => if k = key then (k, slot) :: fields else (k, s) :: Fields.replace key slot fields

def Fields.erase (key : String) (fields : Fields) : Fields := fields.filter fun p => p.1 != key

/-! ## Going down a path -/

/-- Change the table at a path below a table of this form, making the tables that are missing on the way.  `dotted`
says that the path is part of a dotted key and not of a header. -/
def Fields.changeAt (dotted : Bool) (change : Form → Fields → Option Fields) :
    List String → Form → Fields → Option Fields
  | [], form, fields => change form fields
  | key :: path, _, fields =>
    match fields.lookup key with
    | none =>
      let form := if dotted then Form.dotted else .passed
      (changeAt dotted change path form []).map fun sub => fields ++ [(key, .table form sub)]
    | some (.table form sub) =>
      if dotted && form = .header then none
      else (changeAt dotted change path form sub).map fun sub => fields.replace key (.table form sub)
    | some (.tables elements) =>
      match elements.getLast? with
      | none => none
      | some last =>
        (changeAt dotted change path .header last).map fun sub =>
          fields.replace key (.tables (elements.dropLast ++ [sub]))
    | some (.value _) => none

/-! ## What a line does -/

/-- Set a dotted key below a table. -/
def Fields.insert (path : List String) (v : Value) (fields : Fields) : Option Fields :=
  match path.getLast? with
  | none => none
  | some key =>
    let set (form : Form) (sub : Fields) : Option Fields :=
      if path.length ≠ 1 ∧ form ≠ .dotted then none
      else
        match sub.lookup key with
        | none => some (sub ++ [(key, .value v)])
        | some _ => none
    changeAt true set path.dropLast .header fields

def Fields.define (path : List String) (fields : Fields) : Option Fields :=
  match path.getLast? with
  | none => none
  | some key =>
    let open? (_ : Form) (sub : Fields) : Option Fields :=
      match sub.lookup key with
      | none => some (sub ++ [(key, .table .header [])])
      | some (.table .passed inner) => some (sub.erase key ++ [(key, .table .header inner)])
      | some _ => none
    changeAt false open? path.dropLast .header fields

/-- Add an element to the list of tables of a header. -/
def Fields.addElement (path : List String) (fields : Fields) : Option Fields :=
  match path.getLast? with
  | none => none
  | some key =>
    let add (_ : Form) (sub : Fields) : Option Fields :=
      match sub.lookup key with
      | none => some (sub ++ [(key, .tables [[]])])
      | some (.tables elements) => some (sub.replace key (.tables (elements ++ [[]])))
      | some _ => none
    changeAt false add path.dropLast .header fields

/-- Set a dotted key in the table that the last header opened. -/
def Fields.insertIn (header : List String) (path : List String) (v : Value) (fields : Fields) : Option Fields :=
  changeAt false (fun _ sub => sub.insert path v) header .header fields

/-! ## The finished tables -/

mutual

def Slot.toValue : Slot → Value
  | .value v => v
  | .table _ fields => .table (Slot.toFields fields)
  | .tables elements => .array (Slot.toElements elements)

def Slot.toFields : List (String × Slot) → List (String × Value)
  | [] => []
  | (key, slot) :: fields => (key, slot.toValue) :: Slot.toFields fields

def Slot.toElements : List (List (String × Slot)) → List Value
  | [] => []
  | fields :: elements => .table (Slot.toFields fields) :: Slot.toElements elements

end

end Toml
end Plantilla
