import SqlSharding.CommandLine

/-!
# The program

Reads the rule file and the input, and shows what the run gives. All else is decided elsewhere.
-/

namespace SqlSharding.Program

/-- Why the system could not read a file. -/
def fileFault : IO.Error → FileFault
  | .noFileOrDirectory .. => .notFound
  | .permissionDenied .. => .denied
  | .inappropriateType .. => .isDirectory
  | fault => .other (toString fault)

/-- The text of a file, or why it cannot be read. -/
def readText (path : String) : IO (Except FileFault String) := do
  try
    let bytes ← IO.FS.readBinFile path
    match String.fromUTF8? bytes with
    | some text => return .ok text
    | none => return .error .notText
  catch fault =>
    return .error (fileFault fault)

/-- The rule file that the arguments name, if there is one. -/
def readRule (arguments : List String) : IO (Except FileFault String) :=
  match Arguments.request arguments with
  | .ok (.run { rulePath? := some path, .. } _) => readText path
  | _ => return .error .notFound

/-- The whole input, if the arguments ask for the shell. -/
def readInput (arguments : List String) : IO String := do
  match Arguments.request arguments with
  | .ok (.run _ .shell) => (← IO.getStdin).readToEnd
  | _ => return ""

/-- Runs the program. The rule file is read before the run, which asks for no other file. -/
def run (arguments : List String) : IO UInt32 := do
  let file ← readRule arguments
  let input ← readInput arguments
  let outcome := CommandLine.run (fun _ => file) input arguments
  (← IO.getStdout).putStr outcome.output
  (← IO.getStderr).putStr outcome.errors
  return outcome.exitCode.toUInt32

end SqlSharding.Program

/-- Runs the program. -/
def main (arguments : List String) : IO UInt32 :=
  SqlSharding.Program.run arguments
