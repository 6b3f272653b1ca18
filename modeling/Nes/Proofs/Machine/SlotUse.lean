import Nes.Proofs.Cartridge.Slot
import Nes.Proofs.Machine.Stored

/-!
# What a machine does to its cartridge

Whatever is done to a machine, the cartridge in its slot goes through some of the actions on
cartridges and nothing else (`Machine.slotUse_act`). So a property that every action on a cartridge
keeps is one that the machine keeps of the cartridge in it.
-/
namespace Nes

namespace Bus

open Cartridge (SlotUse)

variable {slot : Option Cartridge} {bus : Bus} (use : SlotUse slot bus.slot)

include use

/-- A read of the bus uses the cartridge by its actions only. -/
theorem slotUse_read (address : UInt16) : SlotUse slot (bus.read address).2.slot := by
  have effect := bus.readEffect_read address
  generalize (bus.read address).2 = after at effect ⊢
  cases effect <;> exact use

/-- A write to the bus uses the cartridge by its actions only. -/
theorem slotUse_write (address : UInt16) (value : UInt8) :
    SlotUse slot (bus.write address value).slot := by
  have offered : SlotUse slot (bus.offer address value).slot := use.act (.write address value)
  have effect := bus.writeEffect_write address value
  generalize bus.write address value = after at effect ⊢
  cases effect
  case register place => exact offered.writeRegister _ place value
  all_goals exact offered

/-- A cycle of a transfer uses the cartridge by its actions only. -/
theorem slotUse_transferCycle : SlotUse slot (Machine.transferCycle bus).slot := by
  have effect := Machine.transferEffect_transferCycle bus
  generalize Machine.transferCycle bus = after at effect ⊢
  cases effect
  case read address transfer => exact slotUse_read use address
  all_goals exact use

omit use

/-- The delivery of interrupts uses the cartridge by its actions only. -/
theorem slotUse_interrupts (slot : Option Cartridge) :
    Machine.InterruptInvariant fun bus => SlotUse slot bus.slot where
  accesses :=
    ⟨fun address use => slotUse_read use address,
      fun address value _ use => slotUse_write use address value⟩
  taken use := use
  acknowledged {bus cartridge} found use := by
    have acknowledged := use.act .acknowledge
    rw [found] at acknowledged
    exact acknowledged

end Bus

namespace Machine

open Cartridge (SlotUse)

/-- The turn of the processor uses the cartridge by its actions only. -/
theorem slotUse_turn {slot : Option Cartridge} {machine : Machine}
    (use : SlotUse slot machine.bus.slot) : SlotUse slot machine.turn.bus.slot := by
  have stepped : Cpu.Invariant (fun bus : Bus => SlotUse slot bus.slot) fun _ => True :=
    ⟨fun address use => Bus.slotUse_read use address,
      fun address value _ use => Bus.slotUse_write use address value⟩
  rw [turn]
  split
  · rw [processorCycle]
    split
    · exact Bus.slotUse_transferCycle use
    · exact stepped.step use (fun _ => trivial) machine.cpu
  · exact use

/-- A tick uses the cartridge by its actions only. -/
theorem slotUse_tick (machine : Machine) : SlotUse machine.bus.slot machine.tick.2.bus.slot := by
  have clocked : SlotUse machine.bus.slot machine.clockPicture.2.bus.slot := by
    rw [clockPicture_eq]
    exact (SlotUse.refl _).clock machine.bus.ppu
  have delivered := (Bus.slotUse_interrupts machine.bus.slot).deliver (slotUse_turn clocked)
  rw [tick_machine]
  generalize machine.clockPicture.2.turn.deliverNmi.deliverIrq = last at delivered ⊢
  exact delivered

/-- Whatever is done to a machine, its cartridge goes through some actions. -/
theorem slotUse_act (machine : Machine) (action : Action) :
    SlotUse machine.bus.slot (machine.act action).2.bus.slot := by
  have here := SlotUse.refl machine.bus.slot
  cases action with
  | tick =>
    simp only [act]
    exact machine.slotUse_tick
  | reset =>
    change SlotUse machine.bus.slot machine.reset.bus.slot
    rw [slot_reset]
    exact here.act .reset
  | setButtons socket buttons =>
    have same : (machine.bus.setButtons socket buttons).slot = machine.bus.slot := by
      unfold Bus.setButtons
      split <;> rfl
    change SlotUse machine.bus.slot (machine.bus.setButtons socket buttons).slot
    rw [same]
    exact here
  | read address => exact Bus.slotUse_read here address
  | write address value => exact Bus.slotUse_write here address value

end Machine

end Nes
