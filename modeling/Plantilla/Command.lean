/-!
# Command — what is asked for on the command line

A command has operands and options.  An option that takes a value has it behind an equals sign or as the next
argument, and, in its short form, directly behind its letter; the next argument is a value only if it is a single
hyphen or starts with none.  Behind a double hyphen everything is an operand.  No option is given twice.  Whatever
breaks these rules makes the whole line a misuse.
-/
namespace Plantilla

inductive Command where
  | version
  | check (path : String) (format config : Option String) (halt : Bool)
  | tokens (path : String) (format : Option String)
  | templates
deriving DecidableEq, Repr

namespace Command

/-! ## Options in general -/

/-- The options that a command knows: those that take a value, with their letters, and those that do not. -/
structure Options where
  valued : List (String × Char)
  flags : List String

structure Arguments where
  values : List (String × String)
  flags : List String
  operands : List String

namespace Arguments

def none : Arguments := ⟨[], [], []⟩

/-- With the value of an option, unless it has one. -/
def addValue? (a : Arguments) (name value : String) : Option Arguments :=
  if (a.values.lookup name).isSome then .none else some { a with values := a.values ++ [(name, value)] }

def addFlag? (a : Arguments) (name : String) : Option Arguments :=
  if a.flags.contains name then .none else some { a with flags := a.flags ++ [name] }

def addOperands (a : Arguments) (operands : List String) : Arguments :=
  { a with operands := a.operands ++ operands }

end Arguments

/-- How an argument reads by itself. -/
inductive Reading where
  | endOfOptions
  | operand
  | flag (name : String)
  | assigned (name value : String)
  /-- An option whose value is the next argument. -/
  | awaiting (name : String)
  | unknown

/-- The text behind the first equals sign, if there is one, and the text before it. -/
def splitEquals (cs : List Char) : List Char × Option (List Char) :=
  match cs.dropWhile (· != '=') with
  | [] => (cs, none)
  | _ :: value => (cs.takeWhile (· != '='), some value)

def readLong (known : Options) (cs : List Char) : Reading :=
  let (name, value) := splitEquals cs
  let name := String.ofList name
  if (known.valued.lookup name).isSome then
    match value with
    | some value => .assigned name (String.ofList value)
    | none => .awaiting name
  else if known.flags.contains name && value.isNone then .flag name
  else .unknown

/-- An argument behind one hyphen: a letter, and what follows it. -/
def readShort (known : Options) (letter : Char) (more : List Char) : Reading :=
  match known.valued.find? fun p => p.2 == letter with
  | none => .unknown
  | some (name, _) =>
    match more with
    | [] => .awaiting name
    | '=' :: value => .assigned name (String.ofList value)
    | value => .assigned name (String.ofList value)

def read (known : Options) (argument : String) : Reading :=
  match argument.toList with
  | ['-', '-'] => .endOfOptions
  | '-' :: '-' :: cs => readLong known cs
  | '-' :: letter :: more => readShort known letter more
  | _ => .operand

def isValue (argument : String) : Bool :=
  match argument.toList with
  | '-' :: _ :: _ => false
  | _ => true

def takeApart (known : Options) : Arguments → List String → Option Arguments
  | a, [] => some a
  | a, argument :: rest =>
    match read known argument with
    | .endOfOptions => some (a.addOperands rest)
    | .operand => takeApart known (a.addOperands [argument]) rest
    | .flag name => (a.addFlag? name).bind fun a => takeApart known a rest
    | .assigned name value => (a.addValue? name value).bind fun a => takeApart known a rest
    | .awaiting name =>
      match rest with
      | [] => none
      | value :: rest =>
        if isValue value then (a.addValue? name value).bind fun a => takeApart known a rest else none
    | .unknown => none

/-! ## The commands -/

def checkOptions : Options := ⟨[("format", 'f'), ("config", 'c')], ["halt"]⟩

def tokensOptions : Options := ⟨[("format", 'f')], []⟩

def parse? : List String → Option Command
  | [] => none
  | "check" :: rest =>
    (takeApart checkOptions .none rest).bind fun a =>
      match a.operands with
      | [path] => some (check path (a.values.lookup "format") (a.values.lookup "config") (a.flags.contains "halt"))
      | _ => none
  | "tokens" :: rest =>
    (takeApart tokensOptions .none rest).bind fun a =>
      match a.operands with
      | [path] => some (tokens path (a.values.lookup "format"))
      | _ => none
  | "templates" :: rest =>
    (takeApart ⟨[], []⟩ .none rest).bind fun a => if a.operands = [] then some templates else none
  | argument :: _ =>
    match argument.toList with
    | '-' :: 'V' :: _ => some version
    | cs => if cs = "--version".toList then some version else none

end Command
end Plantilla
