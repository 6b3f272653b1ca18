import Nes.Bus
import Nes.Proofs.Cpu.Simulation
import Nes.Proofs.Ppu.Registers
import Nes.Proofs.Ppu.Unseen

/-!
# Buses in another guise

A restored machine keeps two things of the machine that it was loaded into: what is written on the
label of the cartridge, and the choice whether the frame is drawn. A `Guise` is one value for
both. No access to the bus depends on the guise, and every access keeps it, so the processor goes
through the same states over a bus in any guise (`Bus.guise_simulation`).
-/
namespace Nes

/-- What two machines may differ in that behave alike. -/
structure Guise where
  /-- The label of the cartridge. -/
  label : Cartridge.Label
  /-- Pixels of this frame are drawn. -/
  draws : Bool

namespace Bus

/-- The bus in a guise. -/
def inGuise (bus : Bus) (guise : Guise) : Bus :=
  { bus with
    ppu := bus.ppu.withDraws guise.draws
    slot := Ppu.relabel guise.label bus.slot }

variable (bus : Bus) (guise : Guise)

/-- A read that the cartridge left to the bus is the same in every guise. -/
theorem readUnclaimed_inGuise (address : UInt16) :
    (bus.inGuise guise).readUnclaimed address
      = ((bus.readUnclaimed address).1, (bus.readUnclaimed address).2.inGuise guise) := by
  have register : (bus.inGuise guise).ppu.readRegister (bus.inGuise guise).slot address
      = ((bus.ppu.readRegister bus.slot address).1,
        (bus.ppu.readRegister bus.slot address).2.withDraws guise.draws) :=
    ((Ppu.unseen_relabel guise.label).readRegister _ bus.slot address).trans
      (bus.ppu.readRegister_withDraws bus.slot address guise.draws)
  simp only [readUnclaimed, register]
  split
  · rfl
  split
  · rfl
  split
  · rfl
  split <;> rfl

/-- The bus reads alike in every guise and keeps it. -/
theorem read_inGuise (address : UInt16) :
    (bus.inGuise guise).read address
      = ((bus.read address).1, (bus.read address).2.inGuise guise) := by
  have claimed : (bus.inGuise guise).slot.bind (·.read address)
      = bus.slot.bind (·.read address) := by
    change (Ppu.relabel guise.label bus.slot).bind _ = _
    cases bus.slot <;> rfl
  simp only [read, claimed]
  split
  · rfl
  · exact bus.readUnclaimed_inGuise guise address

/-- A write that the cartridge left to the bus is the same in every guise. -/
theorem writeUnclaimed_inGuise (address : UInt16) (value : UInt8) :
    (bus.inGuise guise).writeUnclaimed address value
      = (bus.writeUnclaimed address value).inGuise guise := by
  have register : (bus.inGuise guise).ppu.writeRegister (bus.inGuise guise).slot address value
      = ((bus.ppu.writeRegister bus.slot address value).1.withDraws guise.draws,
        Ppu.relabel guise.label (bus.ppu.writeRegister bus.slot address value).2) := by
    have written := bus.ppu.writeRegister_withDraws bus.slot address value guise.draws
    refine ((Ppu.unseen_relabel guise.label).writeRegister _ bus.slot address value).trans ?_
    change (((bus.ppu.withDraws guise.draws).writeRegister bus.slot address value).1,
      Ppu.relabel guise.label
        ((bus.ppu.withDraws guise.draws).writeRegister bus.slot address value).2) = _
    rw [written]
  simp only [writeUnclaimed, register]
  split
  · rfl
  split
  · rfl
  split
  · rfl
  split
  · rfl
  split <;> rfl

/-- A write has one effect in every guise and keeps it. -/
theorem write_inGuise (address : UInt16) (value : UInt8) :
    (bus.inGuise guise).write address value = (bus.write address value).inGuise guise := by
  rcases bus with ⟨ram, ppu, controller0, controller1, _ | cartridge, ticks, transfer⟩
  · exact writeUnclaimed_inGuise _ guise address value
  · have written := cartridge.write_withLabel guise.label address value
    let offered : Bus := ⟨ram, ppu, controller0, controller1,
      some (cartridge.write address value).2, ticks, transfer⟩
    have passed := offered.writeUnclaimed_inGuise guise address value
    simp only [write, inGuise, Ppu.relabel, Option.map_some, written]
    split
    · rfl
    · exact passed

/-- The processor learns nothing about the guise of its bus. -/
theorem guise_simulation :
    Cpu.Simulation (fun left right : Bus => right = left.inGuise guise) fun _ => True where
  read := by
    rintro left _ address rfl
    exact ⟨_, _, _, rfl, left.read_inGuise guise address, rfl⟩
  write := by
    rintro left _ address value _ rfl
    exact left.write_inGuise guise address value

variable {bus guise}

/-- Agreement over a bus and the same bus in a guise is an equation. -/
theorem eq_of_agree {α : Type} {plain shown : α × Bus}
    (agree : Cpu.Agree (fun left right => right = left.inGuise guise) plain shown) :
    shown = (plain.1, plain.2.inGuise guise) := by
  obtain ⟨value, first, second, rfl, rfl, rfl⟩ := agree
  rfl

variable (bus guise) (cpu : Cpu)

/-- The processor takes a cycle in the same way in every guise. -/
theorem step_inGuise :
    cpu.step (bus.inGuise guise) = ((cpu.step bus).1, (cpu.step bus).2.inGuise guise) :=
  eq_of_agree ((guise_simulation guise).step (fun _ => trivial) rfl cpu)

/-- The processor is reset in the same way in every guise. -/
theorem reset_inGuise :
    cpu.reset (bus.inGuise guise) = ((cpu.reset bus).1, (cpu.reset bus).2.inGuise guise) :=
  eq_of_agree ((guise_simulation guise).reset rfl cpu)

/-- The interrupt that can not be masked is taken in the same way in every guise. -/
theorem nmi_inGuise :
    cpu.nmi (bus.inGuise guise) = ((cpu.nmi bus).1, (cpu.nmi bus).2.inGuise guise) :=
  eq_of_agree ((guise_simulation guise).nmi (fun _ => trivial) rfl cpu)

/-- The interrupt that can be masked is taken in the same way in every guise. -/
theorem irq_inGuise :
    cpu.irq (bus.inGuise guise) = ((cpu.irq bus).1, (cpu.irq bus).2.inGuise guise) :=
  eq_of_agree ((guise_simulation guise).irq (fun _ => trivial) rfl cpu)

end Bus

end Nes
