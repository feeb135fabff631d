import Plantilla.Command.Run
/-!
# Main — the command line

Everything that a command may look at is read beforehand and handed over as a table; what it prints and how it ends
is decided without any input or output.
-/
namespace Plantilla

/-- What stands at a path of the file system.  A directory can be opened but not read, while a path that goes on from
a file, or one that is too long, cannot even be opened; the complaint names the path only in the second case.  What
cannot be looked at counts as missing. -/
def readPath (path : String) : IO Files.Found := do
  try
    return .file (← IO.FS.readBinFile path)
  catch
    | .noFileOrDirectory .. => return .missing
    | .inappropriateType none .. => return .refused .isDirectory
    | .inappropriateType .. => return .refused .notDirectory
    | .invalidArgument (some _) .. => return .refused .nameTooLong
    | _ => return .missing

partial def readAll (stream : IO.FS.Stream) (before : ByteArray) : IO ByteArray := do
  let chunk ← stream.read 65536
  if chunk.isEmpty then return before else readAll stream (before ++ chunk)

/-- A table of what stands at the paths. -/
def readPaths (paths : List String) : IO Files := do
  let found ← paths.mapM fun path => return (path, ← readPath path)
  return ⟨fun path => (found.lookup path).getD .missing⟩

end Plantilla

open Plantilla in
def main (arguments : List String) : IO UInt32 := do
  let (files, stdin) ← match Command.parse? arguments with
    | none => pure ((⟨fun _ => .missing⟩ : Files), ByteArray.empty)
    | some command =>
      let files ← readPaths command.paths
      let stdin ← if command.readsStdin then readAll (← IO.getStdin) ByteArray.empty else pure ByteArray.empty
      pure (files, stdin)
  let outcome := Command.runArguments files stdin arguments
  IO.print outcome.stdout
  IO.eprint outcome.stderr
  return outcome.code.toUInt32
