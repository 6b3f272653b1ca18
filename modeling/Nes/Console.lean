import Nes.Machine
import Nes.Picture.FrameBuffer

/-!
# The console

A console is a machine with a screen. It runs tick by tick or frame by frame; frames that are not
to be drawn leave the screen as it is and change nothing else.
-/
namespace Nes

/-- A machine with a screen. -/
structure Console where
  /-- The machine. -/
  machine : Machine
  /-- What it has drawn. -/
  screen : Screen

namespace Console

/-- A console at power-on, without a cartridge. -/
def powerOn : Console := ⟨.powerOn, .blank⟩

/-- Change the machine. -/
@[inline] def mapMachine (console : Console) (change : Machine → Machine) : Console :=
  match console with
  | ⟨machine, screen⟩ => ⟨change machine, screen⟩

/-- Put a cartridge into the slot and reset. -/
def insert (console : Console) (cartridge : Cartridge) : Console :=
  console.mapMachine (·.insert cartridge)

/-- Reset the machine. -/
def reset (console : Console) : Console := console.mapMachine Machine.reset

/-- One tick. -/
def tick (console : Console) : Console :=
  match console with
  | ⟨machine, screen⟩ =>
    let (pixel, machine) := machine.tick
    ⟨machine, screen.draw pixel⟩

/-- A number of ticks. -/
def run (console : Console) : Nat → Console
  | 0 => console
  | count + 1 => console.tick.run count

/-- Tick until a frame ends, at most a number of times. -/
def runToFrameEnd (console : Console) : (limit : Nat) → Console
  | 0 => console
  | limit + 1 =>
    let console := console.tick
    if console.machine.bus.ppu.frameComplete then
      console.mapMachine fun machine =>
        { machine with bus := { machine.bus with ppu := machine.bus.ppu.takeFrameComplete.2 } }
    else console.runToFrameEnd limit

/-- Run to the end of the current frame, drawing it or not. The picture chip bounds the number of
ticks that this takes. -/
def runFrame (console : Console) (draw : Bool) : Console :=
  let console := console.mapMachine fun machine =>
    { machine with bus := { machine.bus with ppu := { machine.bus.ppu with drawsFrame := draw } } }
  console.runToFrameEnd console.machine.bus.ppu.dotsToFrameEnd

/-- An attempt to restore the machine from bytes: the fault if there was one, and the console after
it. The screen stays, and a fault leaves the whole console as it was. -/
def tryRestore (console : Console) (bytes : List UInt8) : Option SaveState.Fault × Console :=
  match console.machine.restore bytes with
  | .ok machine => (none, { console with machine })
  | .error fault => (some fault, console)

/-- Restore the machine from bytes, or tell the fault of the attempt. -/
def restore (console : Console) (bytes : List UInt8) : Except SaveState.Fault Console :=
  match console.tryRestore bytes with
  | (none, restored) => .ok restored
  | (some fault, _) => .error fault

end Console

end Nes
