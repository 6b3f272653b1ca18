import Nes.Controller
import Nes.Cpu.AddressSpace
import Nes.OamTransfer
import Nes.Ppu.ProcessorSide

/-!
# The bus

The bus is everything that the processor reads and writes: work memory, the registers of the
picture chip, two controllers, the start of a transfer into sprite memory, and before all of
them the cartridge, which may claim any address. It also counts the ticks of the machine.
-/
namespace Nes

/-- What lies behind the addresses of the processor. -/
structure Bus where
  /-- Work memory. -/
  ram : Memory 0x800
  /-- The picture chip. -/
  ppu : Ppu
  /-- The controller in the first socket. -/
  controller0 : Controller
  /-- The controller in the second socket. -/
  controller1 : Controller
  /-- The cartridge slot. -/
  slot : Option Cartridge
  /-- Ticks since the last reset, modulo 2³². -/
  ticks : UInt32
  /-- The transfer into sprite memory. -/
  transfer : OamTransfer

namespace Bus

/-- The bus at power-on, without a cartridge. -/
def powerOn : Bus where
  ram := .zeros _
  ppu := .powerOn
  controller0 := .powerOn
  controller1 := .powerOn
  slot := none
  ticks := 0
  transfer := .powerOn

/-- Put a cartridge into the slot. -/
def insert (bus : Bus) (cartridge : Cartridge) : Bus := { bus with slot := some cartridge }

/-- Hold down exactly the given buttons of the controller in a socket; there are two, 0 and 1. -/
def setButtons (bus : Bus) (socket : Nat) (buttons : UInt8) : Bus :=
  match socket with
  | 0 => { bus with controller0 := { bus.controller0 with buttons } }
  | 1 => { bus with controller1 := { bus.controller1 with buttons } }
  | _ => bus

/-- Read an address that the cartridge does not claim. -/
def readUnclaimed (bus : Bus) (address : UInt16) : UInt8 × Bus :=
  if address < 0x2000 then (bus.ram.read address.toNat, bus)
  else if address < 0x4000 then
    let (value, ppu) := bus.ppu.readRegister bus.slot address
    (value, { bus with ppu })
  else if address = 0x4016 then
    let (value, controller0) := bus.controller0.read
    (value, { bus with controller0 })
  else if address = 0x4017 then
    let (value, controller1) := bus.controller1.read
    (value, { bus with controller1 })
  else (0, bus)

/-- A processor read. -/
def read (bus : Bus) (address : UInt16) : UInt8 × Bus :=
  match bus.slot.bind (·.read address) with
  | some value => (value, bus)
  | none => bus.readUnclaimed address

/-- Write an address that the cartridge does not claim. -/
def writeUnclaimed (bus : Bus) (address : UInt16) (value : UInt8) : Bus :=
  if address < 0x2000 then { bus with ram := bus.ram.write address.toNat value }
  else if address < 0x4000 then
    let (ppu, slot) := bus.ppu.writeRegister bus.slot address value
    { bus with ppu, slot }
  else if address = 0x4014 then { bus with transfer := bus.transfer.start value }
  else if address = 0x4016 then { bus with controller0 := bus.controller0.latch }
  else if address = 0x4017 then { bus with controller1 := bus.controller1.latch }
  else bus

/-- A processor write. -/
def write (bus : Bus) (address : UInt16) (value : UInt8) : Bus :=
  match bus.slot with
  | none => bus.writeUnclaimed address value
  | some cartridge =>
    let (claimed, cartridge) := cartridge.write address value
    let bus := { bus with slot := some cartridge }
    if claimed then bus else bus.writeUnclaimed address value

instance : Cpu.AddressSpace Bus := ⟨read, write⟩

/-- Whether a transfer into sprite memory is going on. -/
def transferring (bus : Bus) : Bool := bus.transfer.active

open SaveState in
/-- The stored form of the two controllers: the buttons of both, then what both still have to shift
out. -/
def controllersCodec : Codec (Controller × Controller) :=
  (Codec.byte.vector 4).map
    (fun bytes => (⟨bytes[0], bytes[2]⟩, ⟨bytes[1], bytes[3]⟩))
    fun (first, second) => #v[first.buttons, second.buttons, first.shift, second.shift]

open SaveState in
/-- The stored form of the bus, without the picture chip and the cartridge. -/
def layout : Layout Bus := [
    ⟨.memory _, (·.ram), fun value bus => { bus with ram := value }⟩,
    ⟨controllersCodec, fun bus => (bus.controller0, bus.controller1), fun value bus =>
      { bus with controller0 := value.1, controller1 := value.2 }⟩,
    ⟨.doubleWord, (·.ticks), fun value bus => { bus with ticks := value }⟩]
  ++ OamTransfer.layout.focus (·.transfer) fun value bus => { bus with transfer := value }

end Bus

end Nes
