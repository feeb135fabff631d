/-!
# Failure — why a text cannot be processed

A check never fails.  What can fail is getting the text, and saying how it is to be printed.
-/
namespace Plantilla

inductive ReadFault where
  | isDirectory
  /-- The path goes through something that is no directory. -/
  | notDirectory
  | notText
  /-- The path, or a name on it, is longer than paths and names may be. -/
  | nameTooLong
  /-- The path holds the character that ends a path. -/
  | nulInName
deriving DecidableEq, Repr

def ReadFault.message : ReadFault → String
  | .isDirectory => "Is a directory (os error 21)"
  | .notDirectory => "Not a directory (os error 20)"
  | .notText => "stream did not contain valid UTF-8"
  | .nameTooLong => "File name too long (os error 36)"
  | .nulInName => "file name contained an unexpected NUL byte"

inductive Failure where
  | fileNotFound (path : String)
  /-- The text names no stage and format. -/
  | invalidFormat (spec : String)
  | invalidStage (stage : String)
  /-- No format has this name, or the stage cannot be printed so. -/
  | invalidFormatType (detail : String)
  | unreadable (fault : ReadFault)
deriving DecidableEq, Repr

def Failure.message : Failure → String
  | .fileNotFound path => "File not found: " ++ path
  | .invalidFormat spec => "Invalid format: " ++ spec
  | .invalidStage stage => "Invalid stage: " ++ stage
  | .invalidFormatType detail => "Invalid format type: " ++ detail
  | .unreadable fault => "IO error: " ++ fault.message

end Plantilla
