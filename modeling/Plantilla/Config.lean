import Plantilla.Config.Fault
import Plantilla.Format
import Plantilla.Matching
/-!
# Config — four settings out of a tree

A configuration says how matching goes on after an error and how reports are printed.  The tree of settings is read
leniently: a choice takes its name in any case, a number may be written as a text, a truth value or a fraction, and
a truth value as one of six words.  A group may also be a list of its settings in order.
-/
namespace Plantilla

/-- How matching goes on after an error, and how reports are printed. -/
structure Config where
  recovery : Recovery
  format : Format
  showExpected : Bool
deriving DecidableEq, Repr

namespace Config

/-! ## Single settings -/

/-- A setting as one of several named alternatives. -/
def readChoice {α : Type} (choice : String) (alternatives : List (String × α)) (s : Setting) : Except Fault α :=
  let pick (name : String) : Except Fault α :=
    match alternatives.find? fun p => p.1 == Text.lowerCase name with
    | some p => .ok p.2
    | none => .error (.unknownVariant choice name)
  match s with
  | .scalar _ (.text name) => pick name
  | .table _ [(name, _)] => pick name
  | _ => .error (.noChoice choice)

def wordTruth? (word : String) : Option Bool :=
  if word = "true" ∨ word = "on" ∨ word = "yes" then some true
  else if word = "false" ∨ word = "off" ∨ word = "no" then some false
  else none

/-- A setting as a number of 64 bits without a sign.  A fraction goes to the nearest whole number, a half away from
zero, and stops at either end of the range. -/
def readCount (key : String) (s : Setting) : Except Fault Nat :=
  let refuse (found wanted : String) : Except Fault Nat := .error (.wrongType found wanted key s.origin)
  match s with
  | .scalar _ (.integer n) =>
    if 0 ≤ n then .ok n.toNat
    else refuse ("64-bit integer " ++ ticked (Numeral.integerText n)) "an unsigned 64 bit or less integer"
  | .scalar _ (.truth b) => .ok (if b then 1 else 0)
  | .scalar _ (.real x) => .ok x.round.toUInt64.toNat
  | .scalar _ (.text t) =>
    match wordTruth? (Text.lowerCase t) with
    | some b => .ok (if b then 1 else 0)
    | none =>
      match Numeral.word? t with
      | some n => .ok n
      | none => refuse ("string " ++ Text.quoteText t) "an integer"
  | .scalar _ .nothing => refuse "unit value" "an integer"
  | .list _ _ => refuse "sequence" "an integer"
  | .table _ _ => refuse "map" "an integer"

/-- A setting as a truth value.  Every number but zero is true. -/
def readFlag (key : String) (s : Setting) : Except Fault Bool :=
  let refuse (found : String) : Except Fault Bool := .error (.wrongType found "a boolean" key s.origin)
  match s with
  | .scalar _ (.truth b) => .ok b
  | .scalar _ (.integer n) => .ok (n ≠ 0)
  | .scalar _ (.real x) => .ok (x != 0)
  | .scalar _ (.text t) =>
    let word := Text.lowerCase t
    if word = "1" then .ok true
    else if word = "0" then .ok false
    else
      match wordTruth? word with
      | some b => .ok b
      | none => refuse ("string " ++ Text.quoteText word)
  | .scalar _ .nothing => refuse "unit value"
  | .list _ _ => refuse "sequence"
  | .table _ _ => refuse "map"

/-! ## Groups -/

/-- A group of two settings, by key or in order.  Each is read under the key that names it in a complaint. -/
def readPair {α β : Type} (group name first second : String) (readFirst : String → Setting → Except Fault α)
    (readSecond : String → Setting → Except Fault β) (s : Setting) : Except Fault (α × β) :=
  match s with
  | .table _ fields => do
    let one ← (fields.lookup first).mapM (readFirst (name ++ "." ++ first))
    let two ← (fields.lookup second).mapM (readSecond (name ++ "." ++ second))
    match one, two with
    | some one, some two => .ok (one, two)
    | none, _ => .error (.missingField first)
    | _, none => .error (.missingField second)
  | .list _ [] => .error (.shortList 0 group 2)
  | .list _ [one] => do
    let _ ← readFirst (name ++ "[0]") one
    .error (.shortList 1 group 2)
  | .list _ (one :: two :: _) => do
    let one ← readFirst (name ++ "[0]") one
    let two ← readSecond (name ++ "[1]") two
    .ok (one, two)
  | s => .error (.noGroup (describeInGroup s) group)

def modeNames : List (String × Recovery.Mode) := Recovery.Mode.all.map fun m => (m.name, m)

def formatNames : List (String × Format) := Format.all.map fun f => (f.name, f)

def readRecovery (s : Setting) : Except Fault Recovery :=
  (readPair "RecoveryConfig" "recovery" "mode" "quiet_shifts" (fun _ => readChoice "RecoveryMode" modeNames)
    readCount s).map fun p => ⟨p.1, p.2⟩

def readOutput (s : Setting) : Except Fault (Format × Bool) :=
  readPair "OutputConfig" "output" "format" "show_expected" (fun _ => readChoice "OutputFormat" formatNames)
    readFlag s

def ofSetting (s : Setting) : Except Fault Config := do
  let recovery ← (s.fields.lookup "recovery").mapM readRecovery
  let output ← (s.fields.lookup "output").mapM readOutput
  match recovery, output with
  | some recovery, some output => .ok ⟨recovery, output.1, output.2⟩
  | none, _ => .error (.missingField "recovery")
  | _, none => .error (.missingField "output")

end Config
end Plantilla
