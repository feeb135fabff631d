import Plantilla.Config
import Plantilla.Files
import Plantilla.Setting.KeyPath
import Plantilla.Toml.Document
/-!
# Layers — where settings come from

The defaults lie at the bottom.  Files are laid over them in the order in which they are given, and overrides of
single keys over all files, wherever they were given; a later override of the same key takes the place of an earlier
one.  An optional file that is not there or cannot be read is passed over, but one that is no TOML is a fault.
What goes wrong is told in this order too, save that a key that is no path comes before all else.

A file is found under its exact path, or else under its path with the ending `.toml`.
-/
namespace Plantilla

namespace Setting

mutual

def ofToml (origin : Option String) : Toml.Value → Setting
  | .text s => scalar origin (.text s)
  | .integer n => scalar origin (.integer n)
  | .float x => scalar origin (.real x)
  | .truth b => scalar origin (.truth b)
  | .moment m => scalar origin (.text m.display)
  | .array items => list origin (ofTomlItems origin items)
  | .table fields => table origin (ofTomlFields origin fields)

def ofTomlItems (origin : Option String) : List Toml.Value → List Setting
  | [] => []
  | v :: items => ofToml origin v :: ofTomlItems origin items

def ofTomlFields (origin : Option String) : List (String × Toml.Value) → List (String × Setting)
  | [] => []
  | (key, v) :: fields => (key, ofToml origin v) :: ofTomlFields origin fields

end

end Setting

namespace Config

inductive Layer where
  /-- A file, which may be missing if it is not required. -/
  | file (path : String) (required : Bool)
  | override (key : String) (value : Setting)

def defaults : Setting :=
  .table none
    [("recovery", .table none
      [("mode", .scalar none (.text "synchronize")), ("quiet_shifts", .scalar none (.integer 3))]),
     ("output", .table none
      [("format", .scalar none (.text "text")), ("show_expected", .scalar none (.truth true))])]

/-! ## Files -/

def ending : String := ".toml"

/-- The bytes of a file at an exact path, with the path as a complaint names it. -/
def exactFile? (files : Files) (path : String) : Option (String × ByteArray) :=
  match files.find path with
  | .file bytes => some (Path.tidy path, bytes)
  | _ => none

def findFile? (files : Files) (path : String) : Option (String × ByteArray) :=
  (exactFile? files path).or ((Path.withEnding? ending path).bind (exactFile? files))

def readFile (files : Files) (path : String) : Except Fault (String × String) :=
  match findFile? files path with
  | none => .error (.fileNotFound path)
  | some (origin, bytes) =>
    match Files.decode? bytes with
    | none => .error (.unreadable .notText)
    | some s => .ok (origin, s)

/-- A top-level key of a file is a path, if it can be read as one. -/
def topLevelSteps (key : String) : List Setting.PathStep := (KeyPath.parse? key).getD [.key key]

def assign (path : List Setting.PathStep) (v s : Setting) : Except Fault Setting :=
  match Setting.assign? v path s with
  | some s => .ok s
  | none => .error .unreachablePlace

/-- Settings with the fields of a file laid over them. -/
def overlay (origin : String) (fields : List (String × Toml.Value)) (s : Setting) : Except Fault Setting :=
  fields.foldlM (fun s p => assign (topLevelSteps p.1) (Setting.ofToml (some origin) p.2) s) s

def addFile (files : Files) (path : String) (required : Bool) (s : Setting) : Except Fault Setting :=
  match readFile files path with
  | .error fault => if required then .error fault else .ok s
  | .ok (origin, content) =>
    match Toml.parse? content with
    | none => .error (.malformedFile origin)
    | some (.table fields) => overlay origin fields s
    | some v => .error (.rootNotTable (describeInGroup (Setting.ofToml none v)) origin)

/-! ## Overrides -/

/-- The overrides with one more, which takes the place of an earlier one of the same path. -/
def addOverride (path : List Setting.PathStep) (v : Setting) :
    List (List Setting.PathStep × Setting) → List (List Setting.PathStep × Setting)
  | [] => [(path, v)]
  | (p, w) :: rest => if p = path then (p, v) :: rest else (p, w) :: addOverride path v rest

def overrides : List Layer → Except Fault (List (List Setting.PathStep × Setting))
  | layers => layers.foldlM (fun found layer =>
    match layer with
    | .file _ _ => .ok found
    | .override key v =>
      match KeyPath.parse? key with
      | some path => .ok (addOverride path v found)
      | none => .error (.malformedKey key)) []

def addFiles (files : Files) (layers : List Layer) (s : Setting) : Except Fault Setting :=
  layers.foldlM (fun s layer =>
    match layer with
    | .file path required => addFile files path required s
    | .override _ _ => .ok s) s

/-! ## The whole -/

/-- The configuration of layers over the defaults. -/
def load (files : Files) (layers : List Layer) : Except Fault Config := do
  let changes ← overrides layers
  let merged ← addFiles files layers defaults
  ofSetting (← changes.foldlM (fun s p => assign p.1 p.2 s) merged)

end Config
end Plantilla
