import MarkupTemplates.Command.Run

/-!
# The program

`main` runs the command line on the files of the system.
-/

namespace MarkupTemplates

open Command (FileFault)

/-- The fault that an error of the system stands for. -/
def fileFault : IO.Error → FileFault
  | .noFileOrDirectory _ _ _ => .missing
  | .inappropriateType _ 20 _ => .notDirectory
  | .inappropriateType _ _ _ => .directory
  | .invalidArgument _ 36 _ => .tooLong
  | .permissionDenied _ _ _ => .denied
  | _ => .broken

/-- Reads a file of the system. -/
def readSystemFile (path : String) : IO (Except FileFault String) := do
  try
    let bytes ← IO.FS.readBinFile path
    match String.fromUTF8? bytes with
    | some text => return .ok text
    | none => return .error .notText
  catch e => return .error (fileFault e)

end MarkupTemplates

/-- Runs the command line. -/
def main (args : List String) : IO UInt32 := do
  let output ← MarkupTemplates.Command.run MarkupTemplates.readSystemFile args
  IO.print output.out
  IO.eprint output.err
  return output.status.toUInt32
