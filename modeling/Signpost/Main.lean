import Signpost.Cli.Command

/-!
# The program

Reads the command line and the configuration file that it names, runs the
command and prints what it answers.
-/

namespace Signpost.Cli

def readFile (name : String) : IO (Option (List UInt8)) := do
  try
    let bytes ← IO.FS.readBinFile name
    return some bytes.toList
  catch _ => return none

def Outcome.report (outcome : Outcome) : IO UInt32 := do
  (← IO.getStdout).putStr outcome.output
  match outcome.note with
  | none => pure ()
  | some note => (← IO.getStderr).putStrLn note
  return UInt32.ofNat outcome.exitCode

end Signpost.Cli

def main (arguments : List String) : IO UInt32 := do
  match Signpost.Cli.Command.ofArguments arguments with
  | .error _ => Signpost.Cli.misuse.report
  | .ok command =>
    let file ←
      match command.config? with
      | none => pure none
      | some name => Signpost.Cli.readFile name
    (command.run file).report
