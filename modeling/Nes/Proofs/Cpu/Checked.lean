import Nes.Proofs.Arithmetic.Checked
import Nes.Proofs.Cpu.Cycles

/-!
# The arithmetic of the processor

Registers, addresses and the stack pointer go round by design. What the processor adds up besides
is the sum of an addition, which is worked out in a word, and the cycles of an instruction. Both are
done here once more with checked arithmetic. Over every address space and for every processor all
checks of a cycle succeed (`checkedStep_eq`).
-/
namespace Nes.Cpu

/-- Add a byte and the carry to the accumulator. -/
def Registers.checkedAddWithCarry (registers : Registers) (value : UInt8) :
    Option Registers := do
  let both ← add? registers.a.toUInt16 value.toUInt16
  let sum ← add? both registers.status.carry.toUInt8.toUInt16
  let result := sum.toUInt8
  let status := { registers.status with
    carry := sum > 0xFF
    overflow := bit (~~~(registers.a ^^^ value) &&& (registers.a ^^^ result)) 7 }
  return { registers with a := result, status := status.describe result }

/-- Two bytes and a carry fit in a word. -/
theorem Registers.checkedAddWithCarry_eq (registers : Registers) (value : UInt8) :
    registers.checkedAddWithCarry value = some (registers.addWithCarry value) := by
  have left := registers.a.toNat_lt
  have right := value.toNat_lt
  have carry : registers.status.carry.toUInt8.toNat ≤ 1 := by
    cases registers.status.carry <;> decide
  have both : add? registers.a.toUInt16 value.toUInt16
      = some (registers.a.toUInt16 + value.toUInt16) := by
    apply add?_word
    rw [UInt8.toNat_toUInt16, UInt8.toNat_toUInt16]
    omega
  have sum : add? (registers.a.toUInt16 + value.toUInt16)
      registers.status.carry.toUInt8.toUInt16
        = some (registers.a.toUInt16 + value.toUInt16
          + registers.status.carry.toUInt8.toUInt16) := by
    apply add?_word
    rw [UInt16.toNat_add, UInt8.toNat_toUInt16, UInt8.toNat_toUInt16, UInt8.toNat_toUInt16]
    omega
  rw [checkedAddWithCarry, both, Option.bind_eq_bind, Option.bind_some, sum]
  rfl

/-- Go on at the noted distance, counting the cycles of a taken branch one by one. -/
def checkedTakeBranch (cpu : Cpu) : Option Cpu := do
  let target := cpu.registers.pc + cpu.distance
  let taken ← add? cpu.cycles 1
  let cycles ← (if samePage target cpu.registers.pc then some taken else add? taken 1)
  return { cpu with address := target, cycles }.jumpTo target

/-- A taken branch adds two cycles at most, which fit in a byte. -/
theorem checkedTakeBranch_eq {cpu : Cpu} (fits : cpu.cycles.toNat + 2 < 256) :
    cpu.checkedTakeBranch = some cpu.takeBranch := by
  have first : add? cpu.cycles 1 = some (cpu.cycles + 1) := by
    apply add?_byte
    change _ + 1 < 256
    omega
  have second : add? (cpu.cycles + 1) 1 = some (cpu.cycles + 2) := by
    have sum : cpu.cycles + 1 + 1 = cpu.cycles + 2 := UInt8.add_assoc _ _ _
    rw [← sum]
    apply add?_byte
    rw [UInt8.toNat_add]
    change (cpu.cycles.toNat + 1) % 256 + 1 < 256
    omega
  rw [checkedTakeBranch, takeBranch, first, Option.bind_eq_bind, Option.bind_some, second]
  split <;> rfl

section Instructions

variable {β : Type} [AddressSpace β]

/-- Add the operand, changed in some way, to the accumulator. -/
def checkedAdd (mode : AddressingMode) (change : UInt8 → UInt8) (cpu : Cpu) (space : β) :
    Option (Cpu × β) := do
  let (value, cpu, space) := cpu.readOperand mode space
  let registers ← cpu.registers.checkedAddWithCarry (change value)
  return (cpu.withRegisters registers, space)

/-- Let an effect take place. The only one that counts cycles is a branch. -/
def checkedEffect (mode : AddressingMode) (effect : Effect) (cpu : Cpu) (space : β) :
    Option (Cpu × β) :=
  match effect with
  | .branch taken =>
    if taken cpu.registers.status then cpu.checkedTakeBranch.map (·, space)
    else some (cpu, space)
  | effect => some (cpu.perform mode effect space)

/-- Let an operation take place. Only two of them add in a wider type. -/
def checkedPerform (mode : AddressingMode) (operation : Operation) (cpu : Cpu) (space : β) :
    Option (Cpu × β) :=
  match operation with
  | .adc => cpu.checkedAdd mode (fun value => value) space
  | .sbc => cpu.checkedAdd mode (fun value => ~~~value) space
  | operation => cpu.checkedEffect mode operation.effect space

/-- Carry out the next instruction and note the cycles that it takes. -/
def checkedExecute (cpu : Cpu) (space : β) : Option (Cpu × β) := do
  let (opcode, cpu, space) := cpu.fetchByte space
  let instruction := Instruction.ofOpcode opcode
  let found := findOperand instruction.mode { cpu with opcode, cycles := instruction.cycles } space
  let (cpu, space) ← found.cpu.checkedPerform instruction.mode instruction.operation found.space
  let cycles ← (if found.crossed && instruction.operation.paysForPageCross then add? cpu.cycles 1
    else some cpu.cycles)
  let cpu := { cpu with cycles }
  return (cpu.withRegisters (cpu.registers.mapStatus fun status => { status with unused := true }),
    space)

/-- One cycle: begin an instruction if none is in flight, and count the cycle. -/
def checkedStep (cpu : Cpu) (space : β) : Option (Cpu × β) := do
  let (cpu, space) ← (if cpu.complete then cpu.checkedExecute space else some (cpu, space))
  let cycles ← sub? cpu.cycles 1
  return ({ cpu with cycles }, space)

/-- The sum of two bytes and a carry fits in a word. -/
theorem checkedAdd_eq (mode : AddressingMode) (change : UInt8 → UInt8) (cpu : Cpu) (space : β) :
    cpu.checkedAdd mode change space
      = some (cpu.perform mode
        (.load fun value registers => registers.addWithCarry (change value)) space) := by
  rw [checkedAdd, perform]
  dsimp only
  rw [Registers.checkedAddWithCarry_eq]
  rfl

/-- An effect is exact if the cycles that it may count fit in a byte. -/
theorem checkedEffect_eq (mode : AddressingMode) (effect : Effect) {cpu : Cpu}
    (fits : cpu.cycles.toNat + effect.extraCycles < 256) (space : β) :
    cpu.checkedEffect mode effect space = some (cpu.perform mode effect space) := by
  cases effect
  case branch taken =>
    rw [checkedEffect, perform, checkedTakeBranch_eq fits]
    split <;> rfl
  all_goals rfl

/-- An operation is exact, in its result and in the cycles that it may count. -/
theorem checkedPerform_eq (mode : AddressingMode) (operation : Operation) {cpu : Cpu}
    (fits : cpu.cycles.toNat + operation.effect.extraCycles < 256) (space : β) :
    cpu.checkedPerform mode operation space
      = some (cpu.perform mode operation.effect space) := by
  unfold checkedPerform
  split
  · exact checkedAdd_eq mode _ cpu space
  · exact checkedAdd_eq mode _ cpu space
  · exact checkedEffect_eq mode _ fits space

/-- The cycles of every instruction fit in a byte. -/
theorem checkedExecute_eq (cpu : Cpu) (space : β) :
    cpu.checkedExecute space = some (cpu.execute space) := by
  have timed := Instruction.timed_ofOpcode (cpu.fetchByte space).1
  rw [checkedExecute, execute]
  generalize cpu.fetchByte space = fetched at timed ⊢
  obtain ⟨opcode, cpu, space⟩ := fetched
  dsimp only at timed ⊢
  generalize Instruction.ofOpcode opcode = instruction at timed ⊢
  have started := cycles_findOperand { cpu with opcode, cycles := instruction.cycles } space
    instruction.mode
  generalize findOperand instruction.mode { cpu with opcode, cycles := instruction.cycles } space
    = found at started ⊢
  have fits : found.cpu.cycles.toNat + instruction.operation.effect.extraCycles < 256 := by
    have most := timed.2
    rw [Instruction.cyclesAtMost] at most
    rw [started]
    change instruction.cycles.toNat + _ < 256
    omega
  obtain ⟨-, most⟩ := found.cpu.toNat_cycles_performed found.space timed started instruction.mode
  rw [checkedPerform_eq _ _ fits, Option.bind_eq_bind, Option.bind_some]
  generalize found.cpu.perform instruction.mode instruction.operation.effect found.space
    = performed at most ⊢
  obtain ⟨cpu, space⟩ := performed
  dsimp only at most ⊢
  have crossing : add? cpu.cycles 1 = some (cpu.cycles + 1) := by
    apply add?_byte
    change _ + 1 < 256
    omega
  by_cases pays : (found.crossed && instruction.operation.paysForPageCross) = true
  · rw [if_pos pays, if_pos pays, crossing]
    rfl
  · rw [if_neg pays, if_neg pays, UInt8.add_zero]
    rfl

/-- A cycle that is counted is there to be counted. -/
theorem checkedStep_eq (cpu : Cpu) (space : β) :
    cpu.checkedStep space = some (cpu.step space) := by
  have counted {cpu : Cpu} (more : 0 < cpu.cycles.toNat) :
      sub? cpu.cycles 1 = some (cpu.cycles - 1) := sub?_byte more
  rw [checkedStep, step]
  by_cases complete : cpu.complete = true
  · obtain ⟨least, -⟩ := cpu.toNat_cycles_execute space
    rw [if_pos complete, if_pos complete, checkedExecute_eq, Option.bind_eq_bind,
      Option.bind_some]
    dsimp only
    rw [counted (by omega)]
    rfl
  · have more : cpu.cycles.toNat ≠ 0 := by
      intro none
      exact complete (beq_iff_eq.2 (UInt8.toNat_inj.1 none))
    rw [if_neg complete, if_neg complete, Option.bind_eq_bind, Option.bind_some]
    dsimp only
    rw [counted (Nat.pos_of_ne_zero more)]
    rfl

end Instructions

end Nes.Cpu
