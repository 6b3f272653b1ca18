import Nes.Bus
import Nes.Cartridge.Stored
import Nes.Cpu.Step
import Nes.Ppu.Dot

/-!
# The machine

The machine is the processor and its bus. One tick clocks one dot of the picture; every third
tick belongs to the processor, or to a transfer into sprite memory, during which the processor
stands still. Interrupts are delivered at the end of a tick, that of the picture chip before that
of the cartridge.
-/
namespace Nes

/-- A processor and its bus. -/
structure Machine where
  /-- The processor. -/
  cpu : Cpu
  /-- What it reads and writes. -/
  bus : Bus

namespace Machine

/-- The machine at power-on, without a cartridge. -/
def powerOn : Machine := ⟨.powerOn, .powerOn⟩

/-- Reset the cartridge, then the processor through the reset vector, then the picture chip, the
count of ticks and the transfer. Work memory and the controllers stay. -/
def reset (machine : Machine) : Machine :=
  let bus := { machine.bus with slot := machine.bus.slot.map Cartridge.reset }
  let (cpu, bus) := machine.cpu.reset bus
  ⟨cpu, { bus with ppu := bus.ppu.reset, ticks := 0, transfer := .powerOn }⟩

/-- Put a cartridge into the slot and reset. -/
def insert (machine : Machine) (cartridge : Cartridge) : Machine :=
  reset { machine with bus := machine.bus.insert cartridge }

/-- Clock one dot of the picture. -/
def clockPicture (machine : Machine) : Option Pixel × Machine :=
  match machine with
  | ⟨cpu, ⟨ram, ppu, controller0, controller1, slot, ticks, transfer⟩⟩ =>
    match ppu.clock slot with
    | ⟨ppu, slot, pixel⟩ =>
      (pixel, ⟨cpu, ⟨ram, ppu, controller0, controller1, slot, ticks, transfer⟩⟩)

/-- Whether the current tick belongs to the processor. -/
@[inline] def isProcessorTick (machine : Machine) : Bool := machine.bus.ticks % 3 == 0

/-- One cycle of a transfer into sprite memory; the count of ticks tells odd cycles. -/
def transferCycle (bus : Bus) : Bus :=
  let (request, transfer) := bus.transfer.advance (bus.ticks % 2 == 1)
  let bus := { bus with transfer }
  match request with
  | .wait => bus
  | .read address =>
    let (value, bus) := bus.read address
    { bus with transfer := bus.transfer.hand value }
  | .store index value => { bus with ppu := bus.ppu.storeOam index value }

/-- The work of a tick that belongs to the processor. -/
def processorCycle (machine : Machine) : Machine :=
  if machine.bus.transferring then ⟨machine.cpu, transferCycle machine.bus⟩
  else
    let (cpu, bus) := machine.cpu.step machine.bus
    ⟨cpu, bus⟩

/-- Deliver the interrupt of the picture chip. -/
def deliverNmi (machine : Machine) : Machine :=
  if machine.bus.ppu.nmiPending then
    let bus := { machine.bus with ppu := { machine.bus.ppu with nmiPending := false } }
    let (cpu, bus) := machine.cpu.nmi bus
    ⟨cpu, bus⟩
  else machine

/-- Deliver the interrupt of the cartridge. The cartridge is told so even where the processor
masks the interrupt. -/
def deliverIrq (machine : Machine) : Machine :=
  match machine.bus.slot with
  | none => machine
  | some cartridge =>
    if cartridge.irqPending then
      let (cpu, bus) := machine.cpu.irq { machine.bus with slot := some cartridge.acknowledge }
      ⟨cpu, bus⟩
    else machine

/-- Count a tick. -/
def countTick (machine : Machine) : Machine :=
  match machine with
  | ⟨cpu, bus⟩ => ⟨cpu, { bus with ticks := bus.ticks + 1 }⟩

/-- One tick, and the pixel that it makes. -/
def tick (machine : Machine) : Option Pixel × Machine :=
  let (pixel, machine) := machine.clockPicture
  let machine := if machine.isProcessorTick then machine.processorCycle else machine
  (pixel, machine.deliverNmi.deliverIrq.countTick)

open SaveState in
/-- The bytes of the whole machine; a machine without a cartridge has none. -/
def encode (machine : Machine) : Except Fault (List UInt8) :=
  match machine.bus.slot with
  | none => .error .noCartridge
  | some cartridge =>
    .ok (Bus.layout.encode machine.bus ++ Cpu.layout.encode machine.cpu
      ++ Ppu.layout.encode machine.bus.ppu ++ cartridge.encode)

open SaveState in
/-- Read a whole machine in place of another one. Nothing of the other machine is left where the
bytes say otherwise, and nothing is changed where they can not be read. -/
def decode (machine : Machine) : Reader Machine := fun bytes =>
  (Bus.layout.decode machine.bus bytes).andThen fun bus rest =>
    (Cpu.layout.decode machine.cpu rest).andThen fun cpu rest =>
      (Ppu.layout.decode bus.ppu rest).andThen fun ppu rest =>
        ((bus.slot.getD .blank).decode rest).map fun cartridge =>
          ⟨cpu, { bus with ppu, slot := some cartridge }⟩

/-- Restore a machine from bytes. Bytes after the last field are not looked at. -/
def restore (machine : Machine) (bytes : List UInt8) : Except SaveState.Fault Machine :=
  (machine.decode bytes).1

end Machine

end Nes
