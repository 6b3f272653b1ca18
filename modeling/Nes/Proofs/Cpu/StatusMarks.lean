import Nes.Proofs.Cpu.Execution
import Nes.Proofs.Cpu.Cycles

/-!
# The two marks of the status

A handler that serves both the maskable interrupt and the software interrupt tells them apart by
the status byte on the stack: `brk` is set in the copies that an instruction pushes and clear in
those that the hardware pushes, and `unused` is set in all of them. In the processor itself `unused`
is set and `brk` is clear at all times (`Reachable.marked`). Only pulls replace the status as a
whole, and they clear `brk`; every other operation leaves that flag alone, and each instruction ends
by setting `unused`.
-/
namespace Nes.Cpu

/-- The marks of a status that is not a stacked copy. -/
structure Status.Marked (status : Status) : Prop where
  /-- The flag `unused` is set. -/
  unused : status.unused = true
  /-- The flag `brk` is clear. -/
  brk : status.brk = false

/-- No operation sets the flag `brk`: a pull of the status clears it, and the others leave it. -/
theorem Operation.keeps_brk (operation : Operation) :
    operation.effect.Keeps fun registers => registers.status.brk = false := by
  cases operation
  case plp => exact fun _ _ _ => rfl
  all_goals first | exact trivial | exact fun _ clear => clear | exact fun _ _ clear => clear

section Instructions

variable {β : Type} [AddressSpace β] {cpu : Cpu} (space : β)

/-- An effect leaves `brk` clear. -/
theorem brk_perform (mode : AddressingMode) {effect : Effect}
    (keeps : effect.Keeps fun registers => registers.status.brk = false)
    (clear : cpu.registers.status.brk = false) :
    (cpu.perform mode effect space).1.registers.status.brk = false := by
  cases effect
  case load | store | modify | transfer | branch | jump =>
    exact keeps_perform keeps rfl (fun _ _ clear => clear) (fun _ _ _ _ clear => clear) mode space
      clear
  case pull update => exact keeps _ _ clear
  case leaveInterrupt => rfl
  case push | call | leaveCall | enterInterrupt => exact clear

/-- A pull of the status takes the byte above the stack pointer, without its marks. -/
theorem registers_step_of_plp (complete : cpu.complete = true)
    (plp : (cpu.nextInstruction space).operation = .plp) :
    (cpu.step space).1.registers = { cpu.registers with
      pc := cpu.registers.pc + 1
      sp := cpu.registers.sp + 1
      status := (Status.ofByte (AddressSpace.read (cpu.behindOpcode space)
        (stackAddress (cpu.registers.sp + 1))).1).pushedByHardware } := by
  rw [registers_step space complete, performed_of_stack plp rfl]
  rfl

/-- An instruction leaves the marks as they have to be. -/
theorem marked_step (marked : cpu.registers.status.Marked) :
    (cpu.step space).1.registers.status.Marked := by
  by_cases complete : cpu.complete = true
  · rw [registers_step space complete]
    have clear : (cpu.nextFound space).cpu.registers.status.brk = false := by
      rw [registers_nextFound]
      exact marked.brk
    exact ⟨rfl, brk_perform _ _ (Operation.keeps_brk _) clear⟩
  · simp only [step, if_neg complete]
    exact marked

/-- An interrupt sequence leaves the marks of the status alone. -/
theorem marked_interrupt (vector : UInt16) (marked : cpu.registers.status.Marked) :
    (cpu.interrupt space vector).1.registers.status.Marked :=
  ⟨marked.unused, marked.brk⟩

/-- So does the interrupt that can be masked, whether it is taken or not. -/
theorem marked_irq (marked : cpu.registers.status.Marked) :
    (cpu.irq space).1.registers.status.Marked := by
  unfold irq
  split
  · exact marked
  · exact marked_interrupt space irqVector marked

end Instructions

/-- What the cycles and the hardware sequences make of a new processor, each over an address space
of any kind that holds anything. -/
inductive Reachable : Cpu → Prop where
  /-- A new processor. -/
  | powerOn : Reachable powerOn
  /-- After a reset. -/
  | reset {β : Type} [AddressSpace β] {cpu : Cpu} (space : β) :
    Reachable cpu → Reachable (cpu.reset space).1
  /-- After a cycle. -/
  | step {β : Type} [AddressSpace β] {cpu : Cpu} (space : β) :
    Reachable cpu → Reachable (cpu.step space).1
  /-- After a maskable interrupt. -/
  | irq {β : Type} [AddressSpace β] {cpu : Cpu} (space : β) :
    Reachable cpu → Reachable (cpu.irq space).1
  /-- After a non-maskable interrupt. -/
  | nmi {β : Type} [AddressSpace β] {cpu : Cpu} (space : β) :
    Reachable cpu → Reachable (cpu.nmi space).1

namespace Reachable

variable {cpu : Cpu}

/-- The marks hold at all times. -/
theorem marked (reachable : cpu.Reachable) : cpu.registers.status.Marked := by
  induction reachable with
  | powerOn => exact ⟨rfl, rfl⟩
  | reset => exact ⟨rfl, rfl⟩
  | step space _ marked => exact marked_step space marked
  | irq space _ marked => exact marked_irq space marked
  | nmi space _ marked => exact marked_interrupt space nmiVector marked

/-- No more than eight cycles are ever left. -/
theorem cycles_le (reachable : cpu.Reachable) : cpu.cycles.toNat ≤ 8 := by
  induction reachable with
  | powerOn => decide
  | reset => exact (by decide : (8 : UInt8).toNat ≤ 8)
  | step space _ few => exact cycles_step_le _ space few
  | irq space _ few => exact cycles_irq_le _ space few
  | nmi => exact (by decide : (8 : UInt8).toNat ≤ 8)

end Reachable

/-- A byte is a stacked copy of a status: it has the mark of what has pushed it, `unused`, and the
other six flags of the status. -/
structure Status.StackedAs (status : Status) (brk : Bool) (byte : UInt8) : Prop where
  /-- Bit 4 tells what has pushed the byte. -/
  brk : Nes.bit byte 4 = brk
  /-- Bit 5 is set. -/
  unused : Nes.bit byte 5 = true
  /-- The other bits are those of the status. -/
  others : ∀ index ∈ [0, 1, 2, 3, 6, 7], Nes.bit byte index = Nes.bit status.toByte index

/-- Each bit of a status byte is the flag that the byte stands for. -/
theorem Status.stackedAs_toByte (status : Status) (brk : Bool) :
    status.StackedAs brk ({ status with brk, unused := true } : Status).toByte := by
  have copy := ofByte_toByte { status with brk, unused := true }
  have original := ofByte_toByte status
  refine ⟨congrArg Status.brk copy, congrArg Status.unused copy, ?_⟩
  intro index other
  simp only [List.mem_cons, List.not_mem_nil, or_false] at other
  obtain rfl | rfl | rfl | rfl | rfl | rfl := other
  · exact (congrArg Status.carry copy).trans (congrArg Status.carry original).symm
  · exact (congrArg Status.zero copy).trans (congrArg Status.zero original).symm
  · exact (congrArg Status.irqDisable copy).trans (congrArg Status.irqDisable original).symm
  · exact (congrArg Status.decimal copy).trans (congrArg Status.decimal original).symm
  · exact (congrArg Status.overflow copy).trans (congrArg Status.overflow original).symm
  · exact (congrArg Status.negative copy).trans (congrArg Status.negative original).symm

section Records

variable {β : Type} [AddressSpace β] (cpu : Cpu) (space : β)

/-- The pushes of an interrupt, and the vector. -/
theorem log_interrupt (vector : UInt16) :
    (cpu.interrupt (Traced.start space) vector).2.log
      = [.write (stackAddress cpu.registers.sp) (highByte cpu.registers.pc),
        .write (stackAddress (cpu.registers.sp - 1)) (lowByte cpu.registers.pc),
        .write (stackAddress (cpu.registers.sp - 2)) cpu.registers.status.pushedByHardware.toByte,
        .read vector, .read (vector + 1)] := by
  rw [← sub_one_one]
  rfl

/-- A maskable interrupt does nothing while it is masked. -/
theorem log_irq_of_masked (masked : cpu.registers.status.irqDisable = true) :
    (cpu.irq (Traced.start space)).2.log = [] := by
  rw [irq, if_pos masked]
  rfl

/-- A maskable interrupt that is not masked enters through its vector. -/
theorem log_irq_of_unmasked (unmasked : cpu.registers.status.irqDisable = false) :
    (cpu.irq (Traced.start space)).2.log
      = (cpu.interrupt (Traced.start space) irqVector).2.log := by
  rw [irq, unmasked]
  rfl

variable {cpu}

/-- A push of the status reads the opcode and pushes one byte. -/
theorem log_step_of_php (complete : cpu.complete = true)
    (php : (cpu.nextInstruction space).operation = .php) :
    (cpu.step (Traced.start space)).2.log
      = [.read cpu.registers.pc,
        .write (stackAddress cpu.registers.sp)
          cpu.registers.status.pushedByInstruction.toByte] := by
  have traced : (cpu.nextInstruction (Traced.start space)).operation = .php := php
  rw [space_step _ complete, performed_of_stack traced rfl]
  rfl

/-- A software interrupt reads the opcode, goes past the padding byte, pushes its own end and the
status with interrupts masked, and reads the vector. -/
theorem log_step_of_brk (complete : cpu.complete = true)
    (brk : (cpu.nextInstruction space).operation = .brk) :
    (cpu.step (Traced.start space)).2.log
      = [.read cpu.registers.pc,
        .write (stackAddress cpu.registers.sp) (highByte (cpu.registers.pc + 1 + 1)),
        .write (stackAddress (cpu.registers.sp - 1)) (lowByte (cpu.registers.pc + 1 + 1)),
        .write (stackAddress (cpu.registers.sp - 2))
          ({ cpu.registers.status with irqDisable := true } : Status).pushedByInstruction.toByte,
        .read irqVector, .read (irqVector + 1)] := by
  have traced : (cpu.nextInstruction (Traced.start space)).operation = .brk := brk
  rw [space_step _ complete, performed_of_stack traced rfl, ← sub_one_one]
  rfl

end Records

/-- In every state that cycles and hardware sequences lead to, `unused` is set, `brk` is clear and
no more than eight cycles are left. What is pushed from there carries the mark of its cause and
copies the other flags: instructions push `brk` set and hardware pushes it clear. The copy of a
software interrupt has interrupts masked already. -/
theorem status_of_reachable {cpu : Cpu} (reachable : cpu.Reachable) :
    cpu.registers.status.unused = true ∧ cpu.registers.status.brk = false
      ∧ cpu.cycles.toNat ≤ 8
      ∧ ∀ {β : Type} [AddressSpace β] (space : β),
        (cpu.complete = true → (cpu.nextInstruction space).operation = .php →
          ∃ byte, (cpu.step (Traced.start space)).2.log
              = [.read cpu.registers.pc, .write (stackAddress cpu.registers.sp) byte]
            ∧ cpu.registers.status.StackedAs true byte)
        ∧ (cpu.complete = true → (cpu.nextInstruction space).operation = .brk →
          ∃ high low byte, (cpu.step (Traced.start space)).2.log
              = [.read cpu.registers.pc, .write (stackAddress cpu.registers.sp) high,
                .write (stackAddress (cpu.registers.sp - 1)) low,
                .write (stackAddress (cpu.registers.sp - 2)) byte,
                .read 0xFFFE, .read 0xFFFF]
            ∧ { cpu.registers.status with irqDisable := true : Status }.StackedAs true byte)
        ∧ (cpu.registers.status.irqDisable = true → (cpu.irq (Traced.start space)).2.log = [])
        ∧ (cpu.registers.status.irqDisable = false →
          ∃ high low byte, (cpu.irq (Traced.start space)).2.log
              = [.write (stackAddress cpu.registers.sp) high,
                .write (stackAddress (cpu.registers.sp - 1)) low,
                .write (stackAddress (cpu.registers.sp - 2)) byte,
                .read 0xFFFE, .read 0xFFFF]
            ∧ cpu.registers.status.StackedAs false byte)
        ∧ ∃ high low byte, (cpu.nmi (Traced.start space)).2.log
            = [.write (stackAddress cpu.registers.sp) high,
              .write (stackAddress (cpu.registers.sp - 1)) low,
              .write (stackAddress (cpu.registers.sp - 2)) byte,
              .read 0xFFFA, .read 0xFFFB]
          ∧ cpu.registers.status.StackedAs false byte := by
  refine ⟨reachable.marked.unused, reachable.marked.brk, reachable.cycles_le, ?_⟩
  intro β _ space
  have stacked := cpu.registers.status.stackedAs_toByte
  refine ⟨?php, ?brk, cpu.log_irq_of_masked space, ?irq, ?nmi⟩
  case php =>
    intro complete php
    exact ⟨_, log_step_of_php space complete php, stacked true⟩
  case brk =>
    intro complete brk
    exact ⟨_, _, _, log_step_of_brk space complete brk, Status.stackedAs_toByte _ true⟩
  case irq =>
    intro unmasked
    exact ⟨_, _, _, (cpu.log_irq_of_unmasked space unmasked).trans
      (cpu.log_interrupt space irqVector), stacked false⟩
  case nmi => exact ⟨_, _, _, cpu.log_interrupt space nmiVector, stacked false⟩

/-- A pull that finds all bits set leaves `brk` clear, and an interrupt after it pushes that. -/
theorem status_of_reachable_pulled :
    let memory : FlatMemory := ⟨.ofFn fun cell => if cell.val = 0 then 0x28 else 0xFF⟩
    let cpu := (powerOn.step memory).1
    cpu.Reachable ∧ cpu.registers.status.toByte = 0xEF ∧ cpu.registers.status.brk = false
      ∧ cpu.cycles.toNat ≤ 8
      ∧ ∃ byte, .write 0x01FC byte ∈ (cpu.nmi (Traced.start memory)).2.log
        ∧ bit byte 4 = false ∧ bit byte 5 = true := by
  intro memory cpu
  have reachable : cpu.Reachable := .step memory .powerOn
  have opcode : memory.cells.read 0 = 0x28 := Memory.read_ofFn _ (by decide : 0 < 0x10000)
  have stacked : memory.cells.read 0x01FE = 0xFF :=
    Memory.read_ofFn _ (by decide : 0x01FE < 0x10000)
  have plp : (powerOn.nextInstruction memory).operation = .plp := by
    show (Instruction.ofOpcode (memory.cells.read 0)).operation = .plp
    rw [opcode]
    decide
  have registers : cpu.registers
      = { Registers.powerOn with pc := 1, sp := 0xFE, status := (Status.ofByte 0xEF) } := by
    have pulled : (AddressSpace.read (powerOn.behindOpcode memory) 0x01FE).1 = 0xFF := stacked
    have stepped := registers_step_of_plp memory (by rfl) plp
    rw [show stackAddress (powerOn.registers.sp + 1) = 0x01FE by decide, pulled] at stepped
    exact stepped.trans (by decide)
  obtain ⟨-, clear, few, pushes⟩ := status_of_reachable reachable
  obtain ⟨-, -, -, -, high, low, byte, log, copy⟩ := pushes memory
  refine ⟨reachable, ?_, clear, few, byte, ?_, copy.brk, copy.unused⟩
  · rw [registers]
    decide
  · rw [log, registers, show stackAddress (0xFE - 2) = 0x01FC by decide]
    exact .tail _ (.tail _ (.head _))

end Nes.Cpu
