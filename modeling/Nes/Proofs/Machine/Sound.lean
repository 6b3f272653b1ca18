import Nes.Proofs.Bus.Access
import Nes.Proofs.Cartridge.Slot
import Nes.Proofs.Cartridge.Stored
import Nes.Proofs.Machine.Tick
import Nes.Proofs.SaveState.Components

/-!
# Sound machines

A machine is sound when its state can be written down whole and its transfer engine waits while
no transfer is going on (`Bus.Sound`). The machine at power-on is sound, and everything that a
machine does keeps it so.
-/
namespace Nes

namespace Bus

/-- A bus that can be stored, with a transfer engine that waits between transfers. -/
structure Sound (bus : Bus) : Prop where
  /-- The cartridge can be stored. -/
  slot : ∀ cartridge, bus.slot = some cartridge → cartridge.Storable
  /-- The status register of the picture chip fits its byte. -/
  status : bus.ppu.status.FitsByte
  /-- Between transfers the engine waits. -/
  ready : bus.transfer.active = false → bus.transfer.idle = true

/-- The bus at power-on is sound. -/
theorem sound_powerOn : Sound powerOn where
  slot := by
    intro cartridge impossible
    cases impossible
  status := show (0 : UInt8) < 0x20 by decide
  ready _ := rfl

namespace Sound

variable {bus : Bus} (sound : Sound bus)

include sound

/-- Whatever a read changes, the bus stays sound. -/
theorem of_readEffect {after : Bus} (effect : ReadEffect bus after) : Sound after := by
  cases effect
  case register address =>
    refine ⟨sound.slot, ?_, sound.ready⟩
    change (bus.ppu.readRegister bus.slot address).2.status.low < 0x20
    rw [Ppu.statusLow_readRegister]
    exact sound.status
  all_goals exact ⟨sound.slot, sound.status, sound.ready⟩

/-- A write that the cartridge has seen keeps the bus sound. -/
theorem of_writeEffect {after : Bus} {value : UInt8} (effect : WriteEffect bus value after) :
    Sound after := by
  cases effect
  case register address =>
    refine ⟨Cartridge.kept_storable.writeRegister sound.slot bus.ppu address value, ?_,
      sound.ready⟩
    change (bus.ppu.writeRegister bus.slot address value).1.status.low < 0x20
    rw [Ppu.status_writeRegister]
    exact sound.status
  case transfer =>
    refine ⟨sound.slot, sound.status, ?_⟩
    intro stopped
    cases stopped
  all_goals exact ⟨sound.slot, sound.status, sound.ready⟩

/-- Offering a write to the cartridge keeps the bus sound. -/
theorem offer (address : UInt16) (value : UInt8) : Sound (bus.offer address value) :=
  ⟨Cartridge.kept_storable.map sound.slot (.write address value), sound.status, sound.ready⟩

/-- A read keeps the bus sound. -/
theorem read (address : UInt16) : Sound (bus.read address).2 :=
  sound.of_readEffect (bus.readEffect_read address)

/-- A write keeps the bus sound. -/
theorem write (address : UInt16) (value : UInt8) : Sound (bus.write address value) :=
  (sound.offer address value).of_writeEffect (bus.writeEffect_write address value)

/-- A cartridge that can be stored keeps the bus sound. -/
theorem insert {cartridge : Cartridge} (storable : cartridge.Storable) :
    Sound (bus.insert cartridge) := by
  refine ⟨?_, sound.status, sound.ready⟩
  rintro _ ⟨⟩
  exact storable

end Sound

/-- The accesses of a processor keep the bus sound. -/
theorem sound_invariant : Cpu.Invariant Sound fun _ => True where
  read address sound := sound.read address
  write address value _ sound := sound.write address value

/-- The delivery of interrupts keeps the bus sound. -/
theorem sound_interrupts : Machine.InterruptInvariant Sound where
  accesses := by
    constructor
    · intro space address sound
      exact sound.read address
    · intro space address value _ sound
      exact sound.write address value
  taken sound := ⟨sound.slot, sound.status, sound.ready⟩
  acknowledged found sound := by
    refine ⟨?_, sound.status, sound.ready⟩
    rintro _ ⟨⟩
    exact Cartridge.kept_storable _ .acknowledge (sound.slot _ found)

end Bus

namespace Machine

variable {machine : Machine} (sound : machine.bus.Sound)

include sound

/-- A dot keeps the machine sound. -/
theorem sound_clockPicture : machine.clockPicture.2.bus.Sound := by
  have fits : (machine.bus.ppu.clock machine.bus.slot).ppu.status.FitsByte := by
    rw [Ppu.Status.FitsByte, Ppu.statusLow_clock]
    exact sound.status
  have storable := Cartridge.kept_storable.clock sound.slot machine.bus.ppu
  rw [clockPicture_eq]
  generalize machine.bus.ppu.clock machine.bus.slot = clocked at fits storable ⊢
  exact ⟨storable, fits, sound.ready⟩

/-- A cycle of a transfer under way keeps the bus sound. -/
theorem sound_transferCycle (active : machine.bus.transfer.active = true) :
    (transferCycle machine.bus).Sound := by
  rw [transferCycle, OamTransfer.advance]
  by_cases idle : machine.bus.transfer.idle = true
  · rw [if_pos idle]
    refine ⟨sound.slot, sound.status, ?_⟩
    intro stopped
    exact absurd (active.symm.trans stopped) Bool.noConfusion
  · rw [if_neg idle]
    by_cases odd : (machine.bus.ticks % 2 == 1) = true
    · rw [if_pos odd]
      refine ⟨sound.slot, sound.status, ?_⟩
      intro stopped
      change (machine.bus.transfer.active && !(machine.bus.transfer.cursor + 1 == 0)) = false
        at stopped
      rw [active, Bool.true_and] at stopped
      simpa using stopped
    · rw [if_neg odd]
      have read := sound.read (wordOf machine.bus.transfer.cursor machine.bus.transfer.page)
      exact ⟨read.slot, read.status, read.ready⟩

/-- The work of the processor in a tick keeps the machine sound. -/
theorem sound_processorCycle : machine.processorCycle.bus.Sound := by
  rw [processorCycle]
  by_cases active : machine.bus.transferring = true
  · rw [if_pos active]
    exact sound_transferCycle sound active
  · rw [if_neg active]
    exact Bus.sound_invariant.step sound (fun _ => trivial) machine.cpu

/-- The turn of the processor keeps the machine sound. -/
theorem sound_turn : machine.turn.bus.Sound := by
  rw [turn]
  split
  · exact sound_processorCycle sound
  · exact sound

/-- The count of ticks has no part in soundness. -/
theorem sound_countTick : machine.countTick.bus.Sound := by
  rw [countTick_eq]
  exact ⟨sound.slot, sound.status, sound.ready⟩

/-- A tick keeps the machine sound. -/
theorem sound_tick : machine.tick.2.bus.Sound := by
  have turned := sound_turn (sound_clockPicture sound)
  have delivered := Bus.sound_interrupts.deliver turned
  rw [tick_machine]
  exact sound_countTick delivered

/-- A reset keeps the machine sound. -/
theorem sound_reset : machine.reset.bus.Sound := by
  have slotReset : Bus.Sound
      { machine.bus with slot := machine.bus.slot.map Cartridge.reset } :=
    ⟨Cartridge.kept_storable.map sound.slot .reset, sound.status, sound.ready⟩
  have started := Bus.sound_invariant.reset slotReset machine.cpu
  exact ⟨started.slot, show (0 : UInt8) < 0x20 by decide, fun _ => rfl⟩

/-- A cartridge that can be stored keeps the machine sound, and so does the reset behind it. -/
theorem sound_insert {cartridge : Cartridge} (storable : cartridge.Storable) :
    (machine.insert cartridge).bus.Sound := by
  have inserted := sound.insert storable
  have resetSound := @sound_reset ⟨machine.cpu, machine.bus.insert cartridge⟩ inserted
  exact resetSound

/-- Other buttons keep the machine sound. -/
theorem sound_setButtons (socket : Nat) (buttons : UInt8) :
    (machine.bus.setButtons socket buttons).Sound := by
  unfold Bus.setButtons
  split
  all_goals exact ⟨sound.slot, sound.status, sound.ready⟩

end Machine

end Nes
