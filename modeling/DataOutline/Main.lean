import DataOutline.CommandLine.Run
import Std.Time.DateTime.Timestamp

/-!
# The program

The outermost layer: the arguments, the files, the clock and a seed go in, and the output is
written.
-/

namespace DataOutline

/-- What a failure to read a file is called. -/
def fileErrorText : IO.Error → String
  | .noFileOrDirectory .. => "No such file or directory (os error 2)"
  | .permissionDenied .. => "Permission denied (os error 13)"
  | .inappropriateType .. => "Is a directory (os error 21)"
  | e => toString e

/-- The text of a file, or why there is none. -/
def readTextFile (path : String) : IO (Except String String) := do
  try
    match String.fromUTF8? (← IO.FS.readBinFile path) with
    | some text => return .ok text
    | none => return .error "stream did not contain valid UTF-8"
  catch e => return .error (fileErrorText e)

def presentInstant : IO Calendar.Instant := do
  let nanos : Int := (← Std.Time.Timestamp.now).val.toNanoseconds.val
  return ⟨nanos / 1000000000, (nanos % 1000000000).toNat⟩

end DataOutline

open DataOutline in
/-- Carry out the arguments, write the output, and end with its code. -/
def main (arguments : List String) : IO UInt32 := do
  let seed ← IO.rand 0 18446744073709551615
  let supply : Generator.Supply := ⟨.ofSeed seed.toUInt64, ← presentInstant⟩
  let output ← CommandLine.run readTextFile supply arguments
  (← IO.getStdout).putStr output.stdout
  (← IO.getStderr).putStr output.stderr
  return output.code.toUInt32
