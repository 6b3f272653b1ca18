import Nes.Proofs.Bus.Guise
import Nes.Proofs.Machine.Tick

/-!
# Machines in another guise

What a machine does does not depend on its guise: a tick or a reset takes a machine in a guise to
the same machine as without, in that guise. The pixels of a tick do depend on the choice whether to
draw, and on nothing else of the guise.
-/
namespace Nes.Machine

/-- The machine in a guise. -/
def inGuise (machine : Machine) (guise : Guise) : Machine :=
  ⟨machine.cpu, machine.bus.inGuise guise⟩

section Steps

variable (machine : Machine) (guise : Guise)

/-- A dot takes a machine in a guise to the same machine in that guise. -/
theorem clockPicture_inGuise :
    (machine.inGuise guise).clockPicture.2 = machine.clockPicture.2.inGuise guise := by
  have clocked := (Ppu.unseen_relabel guise.label).clock (machine.bus.ppu.withDraws guise.draws)
    machine.bus.slot
  have chip := machine.bus.ppu.clock_withDraws machine.bus.slot guise.draws
  have slot := machine.bus.ppu.clock_slot_withDraws machine.bus.slot guise.draws
  rw [clockPicture_eq, clockPicture_eq]
  simp only [inGuise, Bus.inGuise, clocked, chip, slot]

/-- A dot makes one pixel whatever the label, as long as it is drawn. -/
theorem clockPicture_pixel_inGuise (same : guise.draws = machine.bus.ppu.drawsFrame) :
    (machine.inGuise guise).clockPicture.1 = machine.clockPicture.1 := by
  have clocked := (Ppu.unseen_relabel guise.label).clock (machine.bus.ppu.withDraws guise.draws)
    machine.bus.slot
  rw [clockPicture_eq, clockPicture_eq]
  simp only [inGuise, Bus.inGuise, clocked]
  rw [same, Ppu.withDraws_self]

/-- A cycle of a transfer is the same in every guise. -/
theorem transferCycle_inGuise (bus : Bus) :
    transferCycle (bus.inGuise guise) = (transferCycle bus).inGuise guise := by
  have sameTransfer : (bus.inGuise guise).transfer = bus.transfer := rfl
  have sameTicks : (bus.inGuise guise).ticks = bus.ticks := rfl
  cases waits : bus.transfer.idle with
  | true =>
    rw [transferCycle_of_idle waits, transferCycle_of_idle (sameTransfer ▸ waits)]
    rfl
  | false =>
    by_cases odd : bus.ticks % 2 = 1
    · rw [transferCycle_of_odd waits odd,
        transferCycle_of_odd (sameTransfer ▸ waits) (sameTicks ▸ odd)]
      rfl
    · have read := bus.read_inGuise guise (wordOf bus.transfer.cursor bus.transfer.page)
      rw [transferCycle_of_even waits odd,
        transferCycle_of_even (sameTransfer ▸ waits) (sameTicks ▸ odd), sameTransfer, read]
      rfl

/-- The work of the processor is the same in every guise. -/
theorem processorCycle_inGuise :
    (machine.inGuise guise).processorCycle = machine.processorCycle.inGuise guise := by
  rw [processorCycle, processorCycle]
  by_cases active : machine.bus.transferring = true
  · rw [if_pos active, if_pos (show (machine.inGuise guise).bus.transferring = true from active)]
    exact congrArg (Machine.mk machine.cpu) (transferCycle_inGuise guise machine.bus)
  · have stepped := machine.bus.step_inGuise guise machine.cpu
    rw [if_neg active,
      if_neg (show ¬(machine.inGuise guise).bus.transferring = true from active)]
    simp only [inGuise, stepped]

/-- The turn of the processor is the same in every guise. -/
theorem turn_inGuise : (machine.inGuise guise).turn = machine.turn.inGuise guise := by
  rw [turn, turn]
  by_cases here : machine.isProcessorTick = true
  · rw [if_pos here, if_pos (show (machine.inGuise guise).isProcessorTick = true from here)]
    exact machine.processorCycle_inGuise guise
  · rw [if_neg here, if_neg (show ¬(machine.inGuise guise).isProcessorTick = true from here)]

/-- The interrupt of the picture chip is delivered alike in every guise. -/
theorem deliverNmi_inGuise :
    (machine.inGuise guise).deliverNmi = machine.deliverNmi.inGuise guise := by
  have samePending : (machine.inGuise guise).bus.ppu.nmiPending
      = machine.bus.ppu.nmiPending := rfl
  by_cases pending : machine.bus.ppu.nmiPending = true
  · let cleared : Bus := { machine.bus with ppu := { machine.bus.ppu with nmiPending := false } }
    have taken := cleared.nmi_inGuise guise machine.cpu
    rw [deliverNmi_of_pending pending, deliverNmi_of_pending (samePending ▸ pending)]
    exact congrArg (fun outcome : Cpu × Bus => Machine.mk outcome.1 outcome.2) taken
  · rw [deliverNmi_of_quiet pending, deliverNmi_of_quiet (samePending ▸ pending)]

/-- The interrupt of the cartridge is delivered alike in every guise. -/
theorem deliverIrq_inGuise :
    (machine.inGuise guise).deliverIrq = machine.deliverIrq.inGuise guise := by
  rcases found : machine.bus.slot with _ | cartridge
  · have empty : (machine.inGuise guise).bus.slot = none := by
      change Ppu.relabel guise.label machine.bus.slot = none
      rw [found]
      rfl
    rw [deliverIrq_of_empty found, deliverIrq_of_empty empty]
  · have relabelled : (machine.inGuise guise).bus.slot
        = some (cartridge.withLabel guise.label) := by
      change Ppu.relabel guise.label machine.bus.slot = _
      rw [found]
      rfl
    by_cases pending : cartridge.irqPending = true
    · let told : Bus := { machine.bus with slot := some cartridge.acknowledge }
      have taken := told.irq_inGuise guise machine.cpu
      rw [deliverIrq_of_pending found pending, deliverIrq_of_pending relabelled pending]
      exact congrArg (fun outcome : Cpu × Bus => Machine.mk outcome.1 outcome.2) taken
    · rw [deliverIrq_of_quiet found pending, deliverIrq_of_quiet relabelled pending]

/-- Ticks are counted alike in every guise. -/
theorem countTick_inGuise :
    (machine.inGuise guise).countTick = machine.countTick.inGuise guise := rfl

/-- A tick has one effect in every guise. -/
theorem tick_inGuise :
    (machine.inGuise guise).tick.2 = machine.tick.2.inGuise guise := by
  rw [tick_machine, tick_machine, clockPicture_inGuise, turn_inGuise, deliverNmi_inGuise,
    deliverIrq_inGuise, countTick_inGuise]

/-- A reset takes a machine in a guise to the same machine in that guise. -/
theorem reset_inGuise : (machine.inGuise guise).reset = machine.reset.inGuise guise := by
  let slotReset : Bus := { machine.bus with slot := machine.bus.slot.map Cartridge.reset }
  have offered : { machine.inGuise guise |>.bus with
      slot := (machine.inGuise guise).bus.slot.map Cartridge.reset } = slotReset.inGuise guise := by
    rcases machine with ⟨cpu, ram, ppu, controller0, controller1, _ | cartridge, ticks, transfer⟩
    · rfl
    · rfl
  have started : (machine.inGuise guise).cpu.reset (slotReset.inGuise guise)
      = ((machine.cpu.reset slotReset).1, (machine.cpu.reset slotReset).2.inGuise guise) :=
    slotReset.reset_inGuise guise machine.cpu
  simp only [reset, offered, started]
  rfl

/-- Buttons are held down alike in every guise. -/
theorem setButtons_inGuise (bus : Bus) (socket : Nat) (buttons : UInt8) :
    (bus.inGuise guise).setButtons socket buttons
      = (bus.setButtons socket buttons).inGuise guise := by
  unfold Bus.setButtons
  split <;> rfl

end Steps

end Nes.Machine
