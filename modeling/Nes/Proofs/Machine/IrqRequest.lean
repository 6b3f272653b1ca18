import Nes.Proofs.Bus.IrqRequest
import Nes.Proofs.Machine.Signals
import Nes.Proofs.Machine.Stored
import Nes.Proofs.Ppu.FrameTiming

/-!
# The interrupt of the cartridge in a tick

A request of the cartridge lives for one tick at most: it is made in the dot of the tick, the
accesses of the processor may take it back, and at the end of the tick the cartridge is told that it
was seen. The processor enters the interrupt sequence then, which is written out in
`Machine.enterIrq`, unless it masks the interrupt; in that case nothing remains of the request. The
two interrupts never meet, since the cartridge counts lines behind the dot where the vertical blank
begins (`Machine.tick_of_noRequest`).
-/
namespace Nes

namespace Bus

/-- The processor pushes into work memory. -/
theorem push_eq (cpu : Cpu) (bus : Bus) (value : UInt8) :
    cpu.push bus value
      = (cpu.withRegisters { cpu.registers with sp := cpu.registers.sp - 1 },
        { bus with ram := bus.ram.write (Cpu.stackAddress cpu.registers.sp).toNat value }) := by
  have stored := bus.write_ram (stackAddress_lt cpu.registers.sp) value
  exact congrArg (Prod.mk _) stored

/-- With a cartridge, reads of program memory have no part in work memory. -/
theorem read_of_program {bus : Bus} {cartridge : Cartridge} (found : bus.slot = some cartridge)
    {address : UInt16} (program : inProgramSpace address = true) :
    ∃ value, ∀ ram : Memory 0x800,
      read { bus with ram } address = (value, { bus with ram }) := by
  obtain ⟨value, claimed⟩ := cartridge.read_of_program program
  refine ⟨value, fun ram => read_of_claimed _ ?_⟩
  rw [show Bus.slot { bus with ram } = some cartridge from found]
  exact claimed

end Bus

namespace Machine

/-- The cartridge has been told that its request was seen. -/
def acknowledged (machine : Machine) : Machine :=
  ⟨machine.cpu, { machine.bus with slot := machine.bus.slot.map Cartridge.acknowledge }⟩

/-- The interrupt sequence: the program counter and the status are pushed, interrupts are masked,
and execution goes on at the address that is stored at `FFFE`. -/
def enterIrq (machine : Machine) : Machine :=
  let registers := machine.cpu.registers
  let ram := machine.bus.ram.write (Cpu.stackAddress registers.sp).toNat (highByte registers.pc)
  let ram := ram.write (Cpu.stackAddress (registers.sp - 1)).toNat (lowByte registers.pc)
  let ram := ram.write (Cpu.stackAddress (registers.sp - 1 - 1)).toNat
    registers.status.pushedByHardware.toByte
  let cpu := { machine.cpu with
    registers := { registers with
      sp := registers.sp - 1 - 1 - 1
      pc := wordOf (machine.bus.read 0xFFFE).1 (machine.bus.read 0xFFFF).1
      status := { registers.status with irqDisable := true } }
    cycles := 7 }
  ⟨cpu, { machine.bus with ram }⟩

/-- With a cartridge the sequence is what the processor makes of an interrupt that it does not
mask. -/
theorem irq_of_unmasked {machine : Machine} {cartridge : Cartridge}
    (found : machine.bus.slot = some cartridge)
    (unmasked : ¬machine.cpu.registers.status.irqDisable = true) :
    Machine.mk (machine.cpu.irq machine.bus).1 (machine.cpu.irq machine.bus).2
      = machine.enterIrq := by
  obtain ⟨low, lowRead⟩ := Bus.read_of_program found (show inProgramSpace 0xFFFE = true by rfl)
  obtain ⟨high, highRead⟩ := Bus.read_of_program found (show inProgramSpace 0xFFFF = true by rfl)
  have reads (ram : Memory 0x800) : Cpu.readWord { machine.bus with ram } Cpu.irqVector
      = (wordOf low high, { machine.bus with ram }) := by
    have highRead : Cpu.AddressSpace.read ({ machine.bus with ram } : Bus) (Cpu.irqVector + 1)
        = (high, { machine.bus with ram }) := highRead ram
    rw [Cpu.readWord, show Cpu.AddressSpace.read ({ machine.bus with ram } : Bus) Cpu.irqVector
      = (low, { machine.bus with ram }) from lowRead ram]
    dsimp only
    rw [highRead]
  have vector : wordOf (machine.bus.read 0xFFFE).1 (machine.bus.read 0xFFFF).1
      = wordOf low high := by
    rw [show machine.bus.read 0xFFFE = (low, machine.bus) from lowRead machine.bus.ram,
      show machine.bus.read 0xFFFF = (high, machine.bus) from highRead machine.bus.ram]
  rw [Cpu.irq, if_neg unmasked, Cpu.interrupt, Cpu.pushWord, enterIrq, vector]
  simp only [Bus.push_eq, reads]
  rfl

/-- What the delivery of a request comes to. -/
theorem deliverIrq_eq (machine : Machine) :
    machine.deliverIrq
      = if machine.bus.irqPending then
          if machine.cpu.registers.status.irqDisable then machine.acknowledged
          else machine.acknowledged.enterIrq
        else machine := by
  rcases found : machine.bus.slot with _ | cartridge
  · have none : machine.bus.irqPending = false := by rw [Bus.irqPending, found, Option.any_none]
    rw [deliverIrq_of_empty found, none]
    rfl
  · have same : machine.bus.irqPending = cartridge.irqPending := by
      rw [Bus.irqPending, found, Option.any_some]
    rw [same]
    by_cases pending : cartridge.irqPending = true
    · have told : machine.acknowledged.bus
          = { machine.bus with slot := some cartridge.acknowledge } := by
        rw [acknowledged, found]
        rfl
      rw [deliverIrq_of_pending found pending, if_pos pending, ← told]
      split
      next masked =>
        rw [show machine.cpu.irq machine.acknowledged.bus = (machine.cpu, machine.acknowledged.bus)
          from if_pos masked]
        rfl
      next unmasked =>
        exact irq_of_unmasked (congrArg Bus.slot told) unmasked
    · rw [deliverIrq_of_quiet found pending, if_neg pending]

/-- After the delivery the cartridge asks for nothing, whether or not the processor has listened. -/
theorem irqPending_deliverIrq (machine : Machine) : machine.deliverIrq.bus.irqPending = false := by
  have told : machine.acknowledged.bus.irqPending = false := by
    change (machine.bus.slot.map Cartridge.acknowledge).any Cartridge.irqPending = false
    rcases machine.bus.slot with _ | cartridge
    · rfl
    · exact cartridge.board.irqPending_acknowledge
  rw [deliverIrq_eq]
  split
  next pending =>
    split
    · exact told
    · exact told
  next quiet => exact Bool.eq_false_iff.2 quiet

/-- A tick leaves no request of the cartridge behind. -/
theorem irqPending_tick (machine : Machine) : machine.tick.2.bus.irqPending = false := by
  have told := machine.clockPicture.2.turn.deliverNmi.irqPending_deliverIrq
  rw [tick_machine, countTick_eq]
  generalize machine.clockPicture.2.turn.deliverNmi.deliverIrq = after at told ⊢
  exact told

/-- A reset leaves no request of the cartridge behind. -/
theorem irqPending_reset (machine : Machine) : machine.reset.bus.irqPending = false := by
  rw [Bus.irqPending, slot_reset]
  rcases machine.bus.slot with _ | cartridge
  · rfl
  · exact cartridge.board.irqPending_reset

/-- Interrupts do not make the cartridge ask. -/
theorem noRequest_interrupts : InterruptInvariant fun bus => bus.irqPending = false where
  accesses := {
    read := fun {bus} address quiet => (bus.irqPending_read address).trans quiet
    write := fun {bus} address value _ quiet => by
      refine (bus.irqPending_write address value).trans ?_
      rw [quiet, Bool.false_and] }
  taken quiet := quiet
  acknowledged {_ cartridge} _ _ := cartridge.board.irqPending_acknowledge

/-- Nothing but the dot of a tick makes the cartridge ask. -/
theorem irqPending_act {machine : Machine} (quiet : machine.bus.irqPending = false)
    (action : Action) : (machine.act action).2.bus.irqPending = false := by
  cases action with
  | tick =>
    simp only [act]
    exact machine.irqPending_tick
  | reset => exact machine.irqPending_reset
  | setButtons socket buttons =>
    simp only [act, Bus.setButtons]
    split <;> exact quiet
  | read address => exact (machine.bus.irqPending_read address).trans quiet
  | write address value =>
    have written := machine.bus.irqPending_write address value
    rw [quiet, Bool.false_and] at written
    exact written

/-- Between actions the cartridge asks for nothing. -/
theorem irqPending_after {machine : Machine} (quiet : machine.bus.irqPending = false)
    (actions : List Action) : (machine.after actions).bus.irqPending = false := by
  induction actions generalizing machine with
  | nil => exact quiet
  | cons action actions ih => exact ih (irqPending_act quiet action)

/-- The accesses of the processor in its turn. A transfer into sprite memory only reads. -/
def turnAccesses (machine : Machine) : List Cpu.Access :=
  if machine.isProcessorTick && !machine.bus.transferring then
    Bus.stepAccesses machine.cpu machine.bus
  else []

/-- A transfer leaves the cartridge alone. -/
theorem slot_transferCycle (bus : Bus) : (transferCycle bus).slot = bus.slot := by
  have effect := transferEffect_transferCycle bus
  generalize transferCycle bus = after at effect ⊢
  cases effect with
  | wait transfer => rfl
  | read address transfer => exact (Bus.slot_invariant bus.slot).read address rfl
  | store index value transfer => rfl

/-- In its turn the processor leaves a request alone unless its program takes it back. -/
theorem irqPending_turn (machine : Machine) :
    machine.turn.bus.irqPending
      = (machine.bus.irqPending && !machine.turnAccesses.any Cpu.Access.takesIrqBack) := by
  rw [turn, turnAccesses]
  by_cases own : machine.isProcessorTick = true
  · rw [if_pos own, own, processorCycle]
    by_cases active : machine.bus.transferring = true
    · rw [if_pos active, active]
      have same := congrArg (Option.any Cartridge.irqPending) (slot_transferCycle machine.bus)
      exact same.trans (Bool.and_true _).symm
    · rw [if_neg active, Bool.eq_false_iff.2 active]
      exact Bus.irqPending_step machine.cpu machine.bus
  · rw [if_neg own, Bool.eq_false_iff.2 own]
    exact (Bool.and_true _).symm

/-- A request is made in the dot where the cartridge is told about a line. -/
theorem tellsLine_of_irqPending {machine : Machine} (time : machine.InTime)
    (quiet : machine.bus.irqPending = false)
    (pending : machine.clockPicture.2.bus.irqPending = true) : machine.bus.ppu.tellsLine := by
  obtain ⟨place, punctual⟩ := time.onTime
  have slot := punctual.here.slot_clock machine.bus.slot
  rw [clockPicture_eq] at pending
  generalize machine.bus.ppu.clock machine.bus.slot = clocked at slot pending
  change clocked.slot.any Cartridge.irqPending = true at pending
  by_contra untold
  rw [slot, if_neg untold] at pending
  exact Bool.eq_false_iff.1 quiet pending

/-- A request that is left when the turn of the processor is over is one of this tick's dot. -/
theorem irqPending_clockPicture {machine : Machine}
    (pending : machine.clockPicture.2.turn.bus.irqPending = true) :
    machine.clockPicture.2.bus.irqPending = true := by
  have kept := machine.clockPicture.2.irqPending_turn
  rw [pending] at kept
  exact (Bool.and_eq_true_iff.1 kept.symm).1

/-- The cartridge is not told about lines where the vertical blank begins. -/
theorem nmiPending_of_irqPending {machine : Machine} (time : machine.InTime)
    (quiet : machine.bus.irqPending = false)
    (pending : machine.clockPicture.2.turn.bus.irqPending = true) :
    machine.clockPicture.2.turn.bus.ppu.nmiPending = false := by
  obtain ⟨place, punctual⟩ := time.onTime
  have tells := tellsLine_of_irqPending time quiet (irqPending_clockPicture pending)
  have told := punctual.here.tellsLine_iff.1 tells
  have elsewhere : machine.bus.ppu.isAt 241 1 = false := by
    rw [Bool.eq_false_iff, ne_eq, punctual.here.isAt_iff 241 1 (341 * 242 + 1) rfl rfl]
    omega
  rw [nmiPending_turn time, elsewhere, Bool.false_and]

/-- A tick that starts without a request delivers one, and then no interrupt of the picture chip,
or it delivers none. -/
theorem tick_of_noRequest {machine : Machine} (time : machine.InTime)
    (quiet : machine.bus.irqPending = false) :
    let turned := machine.clockPicture.2.turn
    machine.tick.2
      = (if turned.bus.irqPending then
          if turned.cpu.registers.status.irqDisable then turned.acknowledged
          else turned.acknowledged.enterIrq
        else turned.deliverNmi).countTick := by
  intro turned
  rw [tick_machine, deliverIrq_eq]
  by_cases pending : turned.bus.irqPending = true
  · have alone : ¬turned.bus.ppu.nmiPending = true :=
      Bool.eq_false_iff.1 (nmiPending_of_irqPending time quiet pending)
    rw [deliverNmi_of_quiet alone, if_pos pending]
  · have still : turned.deliverNmi.bus.irqPending = false :=
      noRequest_interrupts.deliverNmi (Bool.eq_false_iff.2 pending)
    rw [still, if_neg Bool.false_ne_true, if_neg pending]

end Machine

end Nes
