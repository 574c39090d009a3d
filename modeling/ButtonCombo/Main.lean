import ButtonCombo.Program

/-!
# The command

The program as a command.  What a run may read is fetched, the run is computed, and
what it leaves behind is written out: the log and the error apart from the output.
-/

namespace ButtonCombo
namespace Program

/-- What is under a path.  Opening fails with a wrong type only below a file, and
reading only on a directory. -/
def fetch (path : String) : IO (Except ReadError Place) := do
  match ← (IO.FS.readBinFile path).toBaseIO with
  | .ok bytes => return .ok (.file bytes.toList)
  | .error (.inappropriateType none _ _) => return .ok .directory
  | .error (.inappropriateType (some _) _ _) => return .error .notDirectory
  | .error (.invalidArgument ..) => return .error .nameTooLong
  | .error (.permissionDenied ..) => return .error .denied
  | .error _ => return .error .notFound

/-- What a run with these arguments finds around it.  No terminal is offered. -/
def survey (arguments : List String) : IO Surroundings := do
  let paths := ((CommandLine.parse? arguments).map CommandLine.paths).getD []
  let places ← paths.mapM fun path => return (path, ← fetch path)
  return {
    files := fun path => (places.lookup path).getD (.error .notFound)
    sequence := ← IO.getEnv "PADCODE_SEQUENCE" }

/-- Write out what a run leaves behind. -/
def Outcome.write (outcome : Outcome) : IO Unit := do
  for line in outcome.logLines do
    IO.eprintln line
  IO.print outcome.output
  if let some error := outcome.error then
    IO.eprint error.report

end Program
end ButtonCombo

/-- Run the program on the arguments of the command line. -/
def main (arguments : List String) : IO UInt32 := do
  let outcome := ButtonCombo.Program.run (← ButtonCombo.Program.survey arguments) arguments
  outcome.write
  return .ofNat outcome.exitCode
