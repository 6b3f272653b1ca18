import Nes.Proofs.Machine.Tick

/-!
# Accesses to the picture chip

Between two dots the picture chip is changed by reads and writes of its registers, by the stores of
a transfer into sprite memory, and by the processor taking its request for an interrupt. A property
of the chip that the accesses keep is kept by the whole turn of the processor, and one that the
taking keeps too is kept by a whole tick but for its dot.
-/
namespace Nes

/-- A property of the picture chip that no access to it ends. -/
structure Ppu.KeptByAccess (Holds : Ppu → Prop) : Prop where
  /-- A read of a register keeps the property. -/
  read : ∀ {ppu} (slot : Option Cartridge) (address : UInt16), Holds ppu →
    Holds (ppu.readRegister slot address).2
  /-- A write of a register keeps the property. -/
  write : ∀ {ppu} (slot : Option Cartridge) (address : UInt16) (value : UInt8), Holds ppu →
    Holds (ppu.writeRegister slot address value).1
  /-- A store in sprite memory keeps the property. -/
  store : ∀ {ppu} (index value : UInt8), Holds ppu → Holds (ppu.storeOam index value)

namespace Ppu.KeptByAccess

variable {Holds : Ppu → Prop} (kept : KeptByAccess Holds)

include kept

/-- A read of the bus keeps what accesses to the chip keep. -/
theorem busRead {bus : Bus} (holds : Holds bus.ppu) (address : UInt16) :
    Holds (bus.read address).2.ppu := by
  have effect := bus.readEffect_read address
  generalize (bus.read address).2 = after at effect ⊢
  cases effect with
  | register address => exact kept.read bus.slot address holds
  | nothing => exact holds
  | controller0 => exact holds
  | controller1 => exact holds

/-- A write to the bus keeps what accesses to the chip keep. -/
theorem busWrite {bus : Bus} (holds : Holds bus.ppu) (address : UInt16) (value : UInt8) :
    Holds (bus.write address value).ppu := by
  have effect := bus.writeEffect_write address value
  have offered : Holds (bus.offer address value).ppu := holds
  generalize bus.write address value = after at effect ⊢
  generalize bus.offer address value = before at effect offered
  cases effect with
  | register address => exact kept.write before.slot address value offered
  | nothing => exact offered
  | ram address => exact offered
  | transfer => exact offered
  | controller0 => exact offered
  | controller1 => exact offered

/-- The processor keeps the property. -/
theorem invariant : Cpu.Invariant (fun bus : Bus => Holds bus.ppu) fun _ => True where
  read address holds := kept.busRead holds address
  write address value _ holds := kept.busWrite holds address value

/-- Interrupts keep the property if the taking of a request does. -/
theorem interrupts (taken : ∀ ppu, Holds ppu → Holds { ppu with nmiPending := false }) :
    Machine.InterruptInvariant fun bus => Holds bus.ppu where
  accesses := {
    read := kept.invariant.read
    write := fun address value _ holds => kept.invariant.write address value trivial holds }
  taken holds := taken _ holds
  acknowledged _ holds := holds

/-- A cycle of a transfer keeps what accesses to the chip keep. -/
theorem transferCycle {bus : Bus} (holds : Holds bus.ppu) :
    Holds (Machine.transferCycle bus).ppu := by
  have effect := Machine.transferEffect_transferCycle bus
  generalize Machine.transferCycle bus = after at effect ⊢
  cases effect with
  | wait transfer => exact holds
  | read address transfer => exact kept.busRead holds address
  | store index value transfer => exact kept.store index value holds

/-- The turn of the processor keeps the property, whoever has it. -/
theorem turn {machine : Machine} (holds : Holds machine.bus.ppu) :
    Holds machine.turn.bus.ppu := by
  rw [Machine.turn]
  split
  · rw [Machine.processorCycle]
    split
    · exact kept.transferCycle holds
    · exact kept.invariant.step holds (fun _ => trivial) machine.cpu
  · exact holds

/-- What a dot leads to, the rest of its tick keeps. -/
theorem tick (taken : ∀ ppu, Holds ppu → Holds { ppu with nmiPending := false })
    {machine : Machine} (clocked : Holds (machine.bus.ppu.clock machine.bus.slot).ppu) :
    Holds machine.tick.2.bus.ppu := by
  have dot : Holds machine.clockPicture.2.bus.ppu := by
    rw [Machine.clockPicture_eq]
    generalize machine.bus.ppu.clock machine.bus.slot = after at clocked ⊢
    exact clocked
  have delivered := (kept.interrupts taken).deliver (kept.turn dot)
  rw [Machine.tick_machine, Machine.countTick_eq]
  generalize machine.clockPicture.2.turn.deliverNmi.deliverIrq = after at delivered ⊢
  exact delivered

end Ppu.KeptByAccess

end Nes
