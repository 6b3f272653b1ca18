import Nes.Machine
import Nes.Proofs.Bus.Access

/-!
# The parts of a tick

A tick is a dot of the picture, then the turn of the processor if the tick is one of its own, then
the delivery of interrupts, and a count. The equations here take a tick apart into these steps.
-/
namespace Nes.Machine

/-- Clocking the picture changes the picture chip and the slot only. -/
theorem clockPicture_eq (machine : Machine) :
    machine.clockPicture
      = ((machine.bus.ppu.clock machine.bus.slot).pixel,
        ⟨machine.cpu, { machine.bus with
          ppu := (machine.bus.ppu.clock machine.bus.slot).ppu
          slot := (machine.bus.ppu.clock machine.bus.slot).slot }⟩) := by
  obtain ⟨cpu, ram, ppu, controller0, controller1, slot, ticks, transfer⟩ := machine
  simp only [clockPicture]

/-- Counting a tick changes nothing else. -/
theorem countTick_eq (machine : Machine) :
    machine.countTick
      = ⟨machine.cpu, { machine.bus with ticks := machine.bus.ticks + 1 }⟩ := rfl

/-- A waiting engine changes at most whether it waits. -/
theorem transferCycle_of_idle {bus : Bus} (idle : bus.transfer.idle = true) :
    transferCycle bus
      = { bus with transfer := { bus.transfer with idle := !(bus.ticks % 2 == 1) } } := by
  rw [transferCycle, OamTransfer.advance, if_pos idle]

/-- In an odd cycle the engine stores the byte that it holds and goes on to the next one. -/
theorem transferCycle_of_odd {bus : Bus} (busy : bus.transfer.idle = false)
    (odd : bus.ticks % 2 = 1) :
    transferCycle bus
      = { bus with
          ppu := bus.ppu.storeOam bus.transfer.cursor bus.transfer.latch
          transfer := { bus.transfer with
            cursor := bus.transfer.cursor + 1
            idle := bus.transfer.cursor + 1 == 0
            active := bus.transfer.active && !(bus.transfer.cursor + 1 == 0) } } := by
  rw [transferCycle, OamTransfer.advance, if_neg (Bool.eq_false_iff.1 busy),
    if_pos (beq_iff_eq.2 odd)]

/-- In an even cycle the engine reads a byte and holds it. -/
theorem transferCycle_of_even {bus : Bus} (busy : bus.transfer.idle = false)
    (even : ¬bus.ticks % 2 = 1) :
    transferCycle bus
      = { (bus.read (wordOf bus.transfer.cursor bus.transfer.page)).2 with
          transfer := (bus.read (wordOf bus.transfer.cursor bus.transfer.page)).2.transfer.hand
            (bus.read (wordOf bus.transfer.cursor bus.transfer.page)).1 } := by
  rw [transferCycle, OamTransfer.advance, if_neg (Bool.eq_false_iff.1 busy),
    if_neg fun odd => even (beq_iff_eq.1 odd)]

/-- What a cycle of a transfer can make of the bus, whatever becomes of the engine. -/
inductive TransferEffect (bus : Bus) : Bus → Prop where
  /-- The engine waits. -/
  | wait (transfer : OamTransfer) : TransferEffect bus { bus with transfer }
  /-- A byte is read. -/
  | read (address : UInt16) (transfer : OamTransfer) :
    TransferEffect bus { (bus.read address).2 with transfer }
  /-- A byte is stored in sprite memory. -/
  | store (index value : UInt8) (transfer : OamTransfer) :
    TransferEffect bus { bus with ppu := bus.ppu.storeOam index value, transfer }

/-- A cycle of a transfer reads or stores at most one byte. -/
theorem transferEffect_transferCycle (bus : Bus) : TransferEffect bus (transferCycle bus) := by
  cases waits : bus.transfer.idle with
  | true =>
    rw [transferCycle_of_idle waits]
    exact .wait _
  | false =>
    by_cases odd : bus.ticks % 2 = 1
    · rw [transferCycle_of_odd waits odd]
      exact .store _ _ _
    · rw [transferCycle_of_even waits odd]
      exact .read _ _

/-- A pending interrupt of the picture chip is taken, and is no longer pending. -/
theorem deliverNmi_of_pending {machine : Machine} (pending : machine.bus.ppu.nmiPending = true) :
    machine.deliverNmi
      = ⟨(machine.cpu.nmi { machine.bus with
            ppu := { machine.bus.ppu with nmiPending := false } }).1,
          (machine.cpu.nmi { machine.bus with
            ppu := { machine.bus.ppu with nmiPending := false } }).2⟩ := by
  rw [deliverNmi, if_pos pending]

/-- Nothing is delivered where the picture chip asks for nothing. -/
theorem deliverNmi_of_quiet {machine : Machine} (quiet : ¬machine.bus.ppu.nmiPending = true) :
    machine.deliverNmi = machine := by
  rw [deliverNmi, if_neg quiet]

/-- A pending interrupt of the cartridge is offered to the processor, and is no longer pending. -/
theorem deliverIrq_of_pending {machine : Machine} {cartridge : Cartridge}
    (found : machine.bus.slot = some cartridge) (pending : cartridge.irqPending = true) :
    machine.deliverIrq
      = ⟨(machine.cpu.irq { machine.bus with slot := some cartridge.acknowledge }).1,
          (machine.cpu.irq { machine.bus with slot := some cartridge.acknowledge }).2⟩ := by
  simp only [deliverIrq, found]
  rw [if_pos pending]

/-- Nothing is delivered where the cartridge asks for nothing. -/
theorem deliverIrq_of_quiet {machine : Machine} {cartridge : Cartridge}
    (found : machine.bus.slot = some cartridge) (quiet : ¬cartridge.irqPending = true) :
    machine.deliverIrq = machine := by
  simp only [deliverIrq, found]
  rw [if_neg quiet]

/-- Nothing is delivered from an empty slot. -/
theorem deliverIrq_of_empty {machine : Machine} (empty : machine.bus.slot = none) :
    machine.deliverIrq = machine := by
  simp only [deliverIrq, empty]

/-- A property of the bus that the delivery of interrupts keeps. Interrupts write to the stack
only, so nothing is asked of writes outside of work memory. -/
structure InterruptInvariant (Holds : Bus → Prop) : Prop where
  /-- Reads, and writes to work memory, keep the property. -/
  accesses : Cpu.Invariant Holds fun address => address < 0x2000
  /-- Taking the interrupt of the picture chip keeps the property. -/
  taken : ∀ {bus : Bus}, Holds bus →
    Holds { bus with ppu := { bus.ppu with nmiPending := false } }
  /-- Acknowledging the interrupt of the cartridge keeps the property. -/
  acknowledged : ∀ {bus : Bus} {cartridge : Cartridge}, bus.slot = some cartridge → Holds bus →
    Holds { bus with slot := some cartridge.acknowledge }

namespace InterruptInvariant

variable {Holds : Bus → Prop} (invariant : InterruptInvariant Holds) {machine : Machine}
  (holds : Holds machine.bus)

include invariant holds

/-- The interrupt of the picture chip is delivered with the property kept. -/
theorem deliverNmi : Holds machine.deliverNmi.bus := by
  by_cases pending : machine.bus.ppu.nmiPending = true
  · rw [deliverNmi_of_pending pending]
    exact invariant.accesses.nmi (invariant.taken holds) Bus.stackAddress_lt machine.cpu
  · rw [deliverNmi_of_quiet pending]
    exact holds

/-- The interrupt of the cartridge is delivered with the property kept. -/
theorem deliverIrq : Holds machine.deliverIrq.bus := by
  rcases found : machine.bus.slot with _ | cartridge
  · rw [deliverIrq_of_empty found]
    exact holds
  · by_cases pending : cartridge.irqPending = true
    · have told := invariant.acknowledged found holds
      rw [deliverIrq_of_pending found pending]
      exact invariant.accesses.irq told Bus.stackAddress_lt machine.cpu
    · rw [deliverIrq_of_quiet found pending]
      exact holds

/-- Both interrupts are delivered with the property kept. -/
theorem deliver : Holds machine.deliverNmi.deliverIrq.bus :=
  invariant.deliverIrq (invariant.deliverNmi holds)

end InterruptInvariant

/-- The turn of the processor, which only some ticks have. -/
def turn (machine : Machine) : Machine :=
  if machine.isProcessorTick then machine.processorCycle else machine

/-- The pixel of a tick is that of its dot. -/
theorem tick_pixel (machine : Machine) : machine.tick.1 = machine.clockPicture.1 := by
  rw [tick]

/-- A tick makes the pixel of its dot. -/
theorem pixel_tick (machine : Machine) :
    machine.tick.1 = (machine.bus.ppu.clock machine.bus.slot).pixel := by
  rw [tick_pixel, clockPicture_eq]

/-- A tick is a dot, a turn, the interrupts and a count. -/
theorem tick_machine (machine : Machine) :
    machine.tick.2 = machine.clockPicture.2.turn.deliverNmi.deliverIrq.countTick := by
  simp only [tick, turn]

end Nes.Machine
