import Nes.Proofs.Machine.Tick

/-!
# The progress of a transfer

A transfer into sprite memory has come as far as its engine, sprite memory and the count of ticks
say. Dots, reads and interrupts leave all of that alone, so in a tick it is the turn of the
processor alone that moves a transfer.
-/
namespace Nes

/-- How far a transfer has come. -/
structure Progress where
  /-- The engine. -/
  transfer : OamTransfer
  /-- Sprite memory. -/
  oam : Memory 256
  /-- The count of ticks. -/
  ticks : UInt32

namespace Bus

/-- How far the transfer on a bus has come. -/
def progress (bus : Bus) : Progress := ⟨bus.transfer, bus.ppu.oam, bus.ticks⟩

/-- A read does not move a transfer. -/
theorem progress_read (bus : Bus) (address : UInt16) :
    (bus.read address).2.progress = bus.progress := by
  have effect := bus.readEffect_read address
  generalize (bus.read address).2 = after at effect ⊢
  cases effect with
  | register address =>
    rw [progress, progress, Ppu.oam_readRegister]
  | nothing => rfl
  | controller0 => rfl
  | controller1 => rfl

/-- Interrupts leave the progress of a transfer alone. -/
theorem progress_interrupts (fixed : Progress) :
    Machine.InterruptInvariant fun bus => bus.progress = fixed where
  accesses := by
    constructor
    · intro space address same
      exact (space.progress_read address).trans same
    · intro space address value low same
      change (space.write address value).progress = fixed
      rw [space.write_ram low]
      exact same
  taken same := same
  acknowledged _ same := same

end Bus

namespace Machine

/-- A dot does not move a transfer. -/
theorem progress_clockPicture (machine : Machine) :
    machine.clockPicture.2.bus.progress = machine.bus.progress := by
  have oam := machine.bus.ppu.oam_clock machine.bus.slot
  rw [clockPicture_eq]
  simp only [Bus.progress, oam]

/-- A tick moves a transfer by what the turn does, and counts. -/
theorem progress_tick (machine : Machine) :
    machine.tick.2.bus.progress
      = { machine.clockPicture.2.turn.bus.progress with
          ticks := machine.clockPicture.2.turn.bus.ticks + 1 } := by
  have progress : machine.clockPicture.2.turn.deliverNmi.deliverIrq.bus.progress
      = machine.clockPicture.2.turn.bus.progress := (Bus.progress_interrupts _).deliver rfl
  rw [tick_machine, countTick_eq]
  generalize machine.clockPicture.2.turn.deliverNmi.deliverIrq = delivered at progress ⊢
  generalize machine.clockPicture.2.turn = turned at progress ⊢
  have ticks : delivered.bus.ticks = turned.bus.ticks := congrArg Progress.ticks progress
  rw [← progress, ← ticks]
  rfl

end Machine

end Nes
