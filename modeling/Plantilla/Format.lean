/-!
# Format — what to print, and how

A *stage* says what is printed, the tokens of a text or the report of its check, and a *format* says how.  Not every
stage can be printed in every format.
-/
namespace Plantilla

inductive Format where
  | simple
  | text
  | json
  | yaml
deriving DecidableEq, Repr

def Format.name : Format → String
  | .simple => "simple"
  | .text => "text"
  | .json => "json"
  | .yaml => "yaml"

def Format.all : List Format := [.simple, .text, .json, .yaml]

def Format.ofName? (s : String) : Option Format := Format.all.find? fun f => f.name == s

inductive Stage where
  | tokens
  | check
deriving DecidableEq, Repr

def Stage.name : Stage → String
  | .tokens => "tokens"
  | .check => "check"

def Stage.all : List Stage := [.tokens, .check]

def Stage.ofName? (s : String) : Option Stage := Stage.all.find? fun f => f.name == s

def Stage.supports : Stage → Format → Bool
  | .tokens, .simple | .tokens, .json => true
  | .check, .text | .check, .json | .check, .yaml => true
  | _, _ => false

end Plantilla
