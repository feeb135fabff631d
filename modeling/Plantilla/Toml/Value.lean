import Plantilla.Toml.Moment
/-!
# Value — what a TOML file holds

The values of a finished file.  How a table came to be, by a header, by dotted keys or in braces, matters only while
the file is read (`Slot`) and leaves no trace here.

A table whose first key is `momentKey` is a moment in disguise.  `Value.settle?` puts the moments in their places, and
fails if one of these tables does not hold the text of a moment.
-/
namespace Plantilla
namespace Toml

/-- A value.  The fields of a table keep their order. -/
inductive Value where
  | text (s : String)
  | integer (n : Int)
  | float (x : Float)
  | truth (b : Bool)
  | moment (m : Moment)
  | array (items : List Value)
  | table (fields : List (String × Value))

/-- The key that marks a moment written as a table. -/
def momentKey : String := "$__toml_private_datetime"

/-- What stands at the mark of a moment, if it comes first; the fields behind it do not count. -/
def markedField? (fields : List (String × Value)) : Option Value :=
  (fields.head?.filter fun p => p.1 == momentKey).map Prod.snd

def Value.writtenMoment? : Value → Option Moment
  | .text s => Moment.ofText? s
  | _ => none

mutual

/-- A value with the moments in their places. -/
def Value.settle? : Value → Option Value
  | .array items => (Value.settleItems? items).map .array
  | .table fields =>
    match markedField? fields with
    | some v => v.writtenMoment?.map .moment
    | none => (Value.settleFields? fields).map .table
  | v => some v

def Value.settleItems? : List Value → Option (List Value)
  | [] => some []
  | v :: items => do
    let v ← v.settle?
    let items ← Value.settleItems? items
    some (v :: items)

def Value.settleFields? : List (String × Value) → Option (List (String × Value))
  | [] => some []
  | (key, v) :: fields => do
    let v ← v.settle?
    let fields ← Value.settleFields? fields
    some ((key, v) :: fields)

end

end Toml
end Plantilla
