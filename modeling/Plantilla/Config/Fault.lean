import Plantilla.Failure
import Plantilla.Setting
import Plantilla.Text.Escape
import Plantilla.Text.Shortest
/-!
# Fault — why a configuration cannot be loaded

The layers can fail to be read, and the merged settings can fail to have the shape that is asked for.  The causes are
data; `Fault.message` words them.
-/
namespace Plantilla
namespace Config

/-- Why a configuration cannot be loaded. -/
inductive Fault where
  | malformedFile (path : String)
  | rootNotTable (found path : String)
  /-- An override key is no path. -/
  | malformedKey (key : String)
  /-- A key leads to a place that no list has or can be given. -/
  | unreachablePlace
  /-- No file has this path, with or without the ending. -/
  | fileNotFound (path : String)
  | unreadable (fault : ReadFault)
  /-- A setting cannot be turned into what is wanted at its key. -/
  | wrongType (found wanted key : String) (origin : Option String)
  /-- A choice is neither a text nor a table of one key. -/
  | noChoice (choice : String)
  | unknownVariant (choice variant : String)
  /-- A group of settings is neither a table nor a list. -/
  | noGroup (found group : String)
  /-- A group is a list without a place for every setting. -/
  | shortList (length : Nat) (group : String) (fields : Nat)
  | missingField (name : String)
deriving DecidableEq, Repr

def Fault.message : Fault → String
  | malformedFile path => "TOML parse error in " ++ path
  | rootNotTable found path => "invalid type: " ++ found ++ ", expected a map in " ++ path ++ " in " ++ path
  | unreachablePlace => "place out of reach"
  | malformedKey key => "invalid key path " ++ Text.quoteText key
  | fileNotFound path => "configuration file \"" ++ path ++ "\" not found"
  | unreadable fault => fault.message
  | wrongType found wanted key origin =>
    "invalid type: " ++ found ++ ", expected " ++ wanted ++ " for key \x60" ++ key ++ "\x60"
      ++ match origin with
        | some path => " in " ++ path
        | none => ""
  | noChoice choice =>
    "value of enum " ++ choice ++ " should be represented by either string or table with exactly one key"
  | unknownVariant choice variant => "enum " ++ choice ++ " does not have variant constructor " ++ variant
  | noGroup found group => "invalid type: " ++ found ++ ", expected struct " ++ group
  | shortList length group fields =>
    "invalid length " ++ Numeral.text length ++ ", expected struct " ++ group ++ " with " ++ Numeral.text fields
      ++ " elements"
  | missingField name => "missing field \x60" ++ name ++ "\x60"

/-- A word between back quotes. -/
def ticked (s : String) : String := "\x60" ++ s ++ "\x60"

/-- What a setting is, in the words of a complaint about its group. -/
def describeInGroup : Setting → String
  | .scalar _ .nothing => "unit value"
  | .scalar _ (.truth b) => "boolean " ++ ticked (if b then "true" else "false")
  | .scalar _ (.integer n) => "integer " ++ ticked (Numeral.integerText n)
  | .scalar _ (.real x) => "floating point " ++ ticked (Shortest.text x)
  | .scalar _ (.text s) => "string " ++ Text.quoteText s
  | .list _ _ => "sequence"
  | .table _ _ => "map"

end Config
end Plantilla
