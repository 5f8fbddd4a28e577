import ParamTree.CommandLine.Program

/-!
# The program

Reads what the command line may ask for, and writes what it answers.
-/

open ParamTree

def readBytes (path : String) : IO (Option ByteArray) := do
  try
    return some (← IO.FS.readBinFile path)
  catch _ =>
    return none

def readAll {α : Type} (read : String → IO (Option α)) (names : List String) : IO (Entries α) :=
  names.foldlM (fun found name => do
    match ← read name with
    | some value => return Entries.insert found name value
    | none => return found) []

def main (args : List String) : IO UInt32 := do
  let files ← readAll readBytes (CommandLine.files args)
  let names := CommandLine.variableNames (Entries.get? files CommandLine.variableFile)
  let values ← readAll (fun name => IO.getEnv name) names
  let output := CommandLine.run ⟨Entries.get? values, Entries.get? files⟩ args
  (← IO.getStdout).putStr output.stdout
  (← IO.getStderr).putStr output.stderr
  return output.exitCode.toUInt32
