import Adventure.Command.Dump
import Adventure.Command.Play

/-!
# The program

The outer layer: gives the commands the disk of the computer they run on, and prints
what they have to say.  The first argument `boxd_dump` selects the command that shows
room data; otherwise a scenario is played.
-/

set_option autoImplicit false

namespace Adventure.Command

/-- Why the computer refused a file. -/
def fileErrorOf : IO.Error → FileError
  | .noFileOrDirectory .. => .missing
  | .inappropriateType _ code _ => if code = 20 then .notDirectory else .isDirectory
  | .invalidArgument _ code reason => if code = 36 then .nameTooLong else .other reason
  | error => .other (toString error)

/-- The disk of the computer. -/
def hostDisk : Disk IO where
  read := fun path => do
    try
      let content ← IO.FS.readBinFile path
      pure (.ok content.data.toList)
    catch error => pure (.error (fileErrorOf error))
  write := fun path content => do
    try
      IO.FS.writeBinFile path (ByteArray.mk content.toArray)
      pure (.ok ())
    catch error => pure (.error (fileErrorOf error))

/-- Runs the selected command. -/
def runOnHost (args : List String) : IO UInt32 := do
  let outcome ←
    match args with
    | "boxd_dump" :: rest => run (Dump.session hostDisk rest)
    | _ => run (Play.session hostDisk args)
  IO.print outcome.out
  IO.eprint outcome.err
  pure (UInt32.ofNat outcome.exit)

end Adventure.Command

/-- The program. -/
def main (args : List String) : IO UInt32 := Adventure.Command.runOnHost args
