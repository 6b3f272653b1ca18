import Nes.CommandLine.Options
import Nes.Console.Files
import Nes.Settings

/-!
# Runs of the command line

A run without a window inserts the cartridge, runs a number of frames and reports where the
processor stands. What a run needs from outside is the contents of two files, and what it gives
is an exit code and two texts. The program also keeps a log, whose records go to the standard error
output; they are left out here, among them the warning that the settings could not be read.
-/
namespace Nes.CommandLine

/-- What a run leaves behind. -/
structure Report where
  /-- The exit code; zero means that nothing went wrong. -/
  code : UInt8
  /-- The text for the standard output. -/
  output : String
  /-- The text for the standard error output, without the records of the log. -/
  errors : String
deriving DecidableEq

/-- The name of the program. -/
def programName : String := "famicore"

/-- The version of the program. -/
def programVersion : String := "0.1.0"

/-- The text shown for the version. -/
def versionText : String := s!"{programName} {programVersion}\n"

/-- The text shown for help. -/
def helpText : String :=
  String.intercalate "\n" [
    "NES emulator core",
    "",
    "Usage: famicore [OPTIONS] <ROM>",
    "",
    "Arguments:",
    "  <ROM>  iNES ROM image",
    "",
    "Options:",
    "      --frames <FRAMES>          Frames to run before exiting (headless runs default to 60)",
    "      --config <CONFIG>          JSON config file [default: famicore.json]",
    "      --state-slot <STATE_SLOT>  Save-state slot, overriding the config file",
    "      --screenshot <SCREENSHOT>  Write the last frame as a PNG (needs the `screenshot` feature)",
    "      --headless                 Run without opening a window",
    "  -v, --verbose...               Log more: -v info, -vv debug, -vvv trace",
    "  -h, --help                     Print help",
    "  -V, --version                  Print version",
    ""]

/-- The number of frames that are run unless another one is asked for. -/
def standardFrames : Nat := 60

/-- Run frames up to a total; the last frame is drawn whatever the settings say. -/
def runFrames (settings : Settings) (total : Nat) (console : Console) : Nat → Console
  | 0 => console
  | left + 1 =>
    let frame := total - (left + 1)
    runFrames settings total (console.runFrame (left == 0 || settings.draws frame)) left

/-- The line that tells where the processor stands. -/
def summary (frames : Nat) (registers : Cpu.Registers) : String :=
  let hex (width value : Nat) : String := "$" ++ upperHex width value
  s!"ran {frames} frames, PC={hex 4 registers.pc.toNat} A={hex 2 registers.a.toNat}"
    ++ s!" X={hex 2 registers.x.toNat} Y={hex 2 registers.y.toNat}"
    ++ s!" SP={hex 2 registers.sp.toNat}\n"

/-- The text shown where a picture is asked for, since this program writes none. -/
def screenshotRefusal : String := "--screenshot requires building with the `screenshot` feature\n"

/-- Run the program on the contents of the two files that its options name. The standard settings
stand in for a file that can not be read; the log has a warning then, and the report has none. -/
def run (options : Options) (rom settings : FileContents) : Report :=
  match Console.powerOn.loadRom options.rom rom with
  | .error fault => ⟨1, "", s!"{options.rom}: {fault.message}\n"⟩
  | .ok console =>
    let frames := options.frames.getD standardFrames
    let console := runFrames (.ofFileOrStandard settings) frames console frames
    let output := summary frames console.machine.cpu.registers
    if options.screenshot.isSome then ⟨1, output, screenshotRefusal⟩ else ⟨0, output, ""⟩

/-- The report on a request for help. -/
def helpReport : Report := ⟨0, helpText, ""⟩

/-- The report on a request for the version. -/
def versionReport : Report := ⟨0, versionText, ""⟩

/-- The report on arguments that can not be understood. -/
def misuseReport : Report :=
  ⟨2, "", "error: wrong arguments\n\nFor more information, try '--help'.\n"⟩

/-- The report on any request; the two files are asked for only where the program runs. -/
def report (request : Request) (read : String → FileContents) : Report :=
  match request with
  | .run options => run options (read options.rom) (read options.settings)
  | .help => helpReport
  | .version => versionReport
  | .misuse => misuseReport

end Nes.CommandLine
