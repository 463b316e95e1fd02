import ChannelBus.CommandLine

/-!
# The program

Reads the configuration file, if one is named, runs the workload and prints the report.
-/

namespace ChannelBus

/-- What a file holds, if it can be read. -/
def readContents (path : String) : IO (Option String) := do
  try return some (← IO.FS.readFile path)
  catch _ => return none

/-- Prints a report and answers with its exit code. -/
def CommandLine.Report.print (report : CommandLine.Report) : IO UInt32 := do
  IO.print report.output
  match report.complaint with
  | some complaint => IO.eprintln complaint
  | none => pure ()
  return report.exitCode

/-- Runs the program with its arguments. -/
def runProgram (arguments : List String) : IO UInt32 := do
  match CommandLine.parse arguments with
  | none => CommandLine.usageReport.print
  | some options =>
    let contents ← match options.config with
      | some path => readContents path
      | none => pure none
    (CommandLine.run options contents).print

end ChannelBus

/-- The entry point. -/
def main (arguments : List String) : IO UInt32 :=
  ChannelBus.runProgram arguments
