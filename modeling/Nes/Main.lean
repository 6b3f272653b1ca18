import Nes.CommandLine.Report

/-!
# The program

The program reads the files that its arguments name, runs and prints the report.
-/
namespace Nes

/-- The fault that an error of the system stands for. -/
def faultOfSystem : IO.Error → FileFault
  | .noFileOrDirectory _ _ _ => .notFound
  | .inappropriateType _ 20 _ => .notDirectory
  | .inappropriateType _ 21 _ => .isDirectory
  | error => .other error.toString

/-- Read a file. -/
def readContents (path : String) : IO FileContents := do
  try return .ok (← IO.FS.readBinFile path)
  catch error => return .error (faultOfSystem error)

/-- Print a report. -/
def printReport (report : CommandLine.Report) : IO UInt32 := do
  IO.print report.output
  IO.eprint report.errors
  return report.code.toUInt32

end Nes

/-- Run the program. -/
def main (arguments : List String) : IO UInt32 := do
  match Nes.CommandLine.request arguments with
  | .run options =>
    let settings ← Nes.readContents options.settings
    let rom ← Nes.readContents options.rom
    Nes.printReport (Nes.CommandLine.run options rom settings)
  | .help => Nes.printReport Nes.CommandLine.helpReport
  | .version => Nes.printReport Nes.CommandLine.versionReport
  | .misuse => Nes.printReport Nes.CommandLine.misuseReport
