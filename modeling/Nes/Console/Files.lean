import Nes.Console
import Nes.Cartridge.Image
import Nes.Storage.Basic

/-!
# Files of the console

The console reads cartridges from image files and keeps states in state files. A state file that
can not be read or written is no error: the answer tells that nothing was done. A slot is a state
file in a directory, named after the image file and numbered.
-/
namespace Nes

/-- Why no cartridge came from a file. -/
inductive RomFault where
  /-- The file could not be read. -/
  | unreadable (fault : FileFault)
  /-- The bytes are not the image of a supported cartridge. -/
  | refused (error : ImageError)

/-- The text shown for a fault. -/
def RomFault.message : RomFault → String
  | unreadable fault => s!"failed to read ROM: {fault.message}"
  | refused error => error.message

/-- The cartridge in the contents of a file. It notes the path, and so does a stand-in. -/
def Cartridge.ofFile (path : String) (contents : FileContents) : Except RomFault Cartridge :=
  match contents with
  | .error fault => .error (.unreadable fault)
  | .ok image => (Cartridge.withPath path (Cartridge.ofImage image)).mapError .refused

namespace Console

/-- Insert the cartridge in the contents of a file. -/
def loadRom (console : Console) (path : String) (contents : FileContents) :
    Except RomFault Console :=
  (Cartridge.ofFile path contents).map console.insert

/-- Write a state file and tell whether it was written. -/
def saveState (console : Console) (storage : Storage) (path : String) :
    Except SaveState.Fault (Bool × Storage) :=
  console.machine.encode.map fun bytes =>
    match storage.write path ⟨bytes.toArray⟩ with
    | .ok storage => (true, storage)
    | .error _ => (false, storage)

/-- Restore a state file and tell whether it was read. -/
def loadState (console : Console) (storage : Storage) (path : String) :
    Except SaveState.Fault (Bool × Console) :=
  match storage.read path with
  | .ok bytes => (console.restore bytes.data.toList).map (true, ·)
  | .error _ => .ok (false, console)

/-- The name that state files have without an image file. -/
def defaultStem : String := "famicore"

/-- The state file of a slot in a directory. -/
def slotPath (console : Console) (directory : String) (slot : UInt8) : String :=
  let stem := (console.machine.bus.slot.bind (·.path)).bind Path.fileStem?
  Path.join directory s!"{stem.getD defaultStem}.state{slot.toNat}"

/-- Write the state file of a slot. -/
def saveSlot (console : Console) (storage : Storage) (directory : String) (slot : UInt8) :
    Except SaveState.Fault (Bool × Storage) :=
  console.saveState storage (console.slotPath directory slot)

/-- Restore the state file of a slot. -/
def loadSlot (console : Console) (storage : Storage) (directory : String) (slot : UInt8) :
    Except SaveState.Fault (Bool × Console) :=
  console.loadState storage (console.slotPath directory slot)

end Console

end Nes
