import ZWave.CommandLine.Program

/-!
# The program

Reads the arguments and the model file, and prints what the simulation ends with.
-/

namespace ZWave

/-- Why the system could not read a file. -/
def readFailure : IO.Error → String
  | .noFileOrDirectory _ _ _ => CommandLine.missingFile
  | error => toString error

/-- The text of a file, or why it cannot be read. -/
def fileContents (path : String) : IO (Except String String) := do
  try
    match String.fromUTF8? (← IO.FS.readBinFile path) with
    | some text => return .ok text
    | none => return .error "stream did not contain valid UTF-8"
  catch error =>
    return .error (readFailure error)

def finish (outcome : CommandLine.Outcome) : IO UInt32 := do
  IO.print outcome.stdout
  IO.eprint outcome.stderr
  return UInt32.ofNat outcome.code

end ZWave

def main (arguments : List String) : IO UInt32 := do
  match ZWave.CommandLine.parse arguments with
  | .error stop => ZWave.finish stop.outcome
  | .ok options => do
    let contents ← ZWave.fileContents options.model
    ZWave.finish (ZWave.CommandLine.simulate options contents)
