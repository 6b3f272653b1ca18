import Nes.Proofs.Cpu.Timing

/-!
# Execution of an instruction

What an instruction leaves is what its effect leaves behind the operand that was found
(`Cpu.performed`): the other steps of a cycle touch the count and the flag `unused` alone. Finding
an operand moves the program counter on by the length of the addressing mode and notes the
effective address, which the mode, the registers and the bytes behind the opcode determine
(`effective?`).
-/
namespace Nes.Cpu

/-- Two steps up a byte are one by two. -/
theorem add_one_one (byte : UInt8) : byte + 1 + 1 = byte + 2 := UInt8.add_assoc _ _ _

/-- Two steps down a byte are one by two. -/
theorem sub_one_one (byte : UInt8) : byte - 1 - 1 = byte - 2 := by
  grind

/-- The bytes that an addressing mode has behind the opcode. -/
def AddressingMode.operandLength : AddressingMode → Nat
  | .implied => 0
  | .immediate | .zeroPage | .zeroPageX | .zeroPageY | .relative | .indirectX | .indirectY => 1
  | .absolute | .absoluteX | .absoluteY | .indirect => 2

section Operands

variable {β : Type} [AddressSpace β]

/-- The address of the operand in memory, when the bytes behind the opcode start at `place`. -/
def effective? (mode : AddressingMode) (registers : Registers) (place : UInt16) (space : β) :
    Option UInt16 :=
  match mode with
  | .implied | .relative => none
  | .immediate => some place
  | .zeroPage => some (AddressSpace.read space place).1.toUInt16
  | .zeroPageX => some ((AddressSpace.read space place).1 + registers.x).toUInt16
  | .zeroPageY => some ((AddressSpace.read space place).1 + registers.y).toUInt16
  | .absolute => some (readWord space place).1
  | .absoluteX => some ((readWord space place).1 + registers.x.toUInt16)
  | .absoluteY => some ((readWord space place).1 + registers.y.toUInt16)
  | .indirect =>
    let (pointer, space) := readWord space place
    some (pagePointer space pointer).1
  | .indirectX =>
    let (pointer, space) := AddressSpace.read space place
    some (zeroPagePointer space (pointer + registers.x)).1
  | .indirectY =>
    let (pointer, space) := AddressSpace.read space place
    some ((zeroPagePointer space pointer).1 + registers.y.toUInt16)

variable (mode : AddressingMode) (cpu : Cpu) (space : β)

/-- The address that is noted is the effective one. -/
theorem address_findOperand {address : UInt16}
    (effective : effective? mode cpu.registers cpu.registers.pc space = some address) :
    (findOperand mode cpu space).cpu.address = address := by
  cases mode
  case implied | relative => cases effective
  all_goals exact Option.some.inj effective

/-- Finding an operand goes past its bytes and leaves every other register alone. -/
theorem registers_findOperand :
    (findOperand mode cpu space).cpu.registers
      = { cpu.registers with pc := cpu.registers.pc + .ofNat mode.operandLength } := by
  have next : cpu.registers.pc + 1 + 1 = cpu.registers.pc + 2 := UInt16.add_assoc _ _ _
  cases mode
  case implied =>
    change cpu.registers = { cpu.registers with pc := cpu.registers.pc + 0 }
    rw [UInt16.add_zero]
  case absolute | absoluteX | absoluteY | indirect =>
    change { cpu.registers with pc := cpu.registers.pc + 1 + 1 }
      = { cpu.registers with pc := cpu.registers.pc + 2 }
    rw [next]
  all_goals rfl

variable {mode} {space}

/-- An operand in memory has an effective address. -/
theorem effective?_eq_none_iff {registers : Registers} {place : UInt16} :
    effective? mode registers place space = none ↔ mode = .implied ∨ mode = .relative := by
  cases mode <;> simp [effective?]

/-- An operand at an effective address is read there. -/
theorem readOperand_of_memory (memory : mode ≠ .implied) :
    cpu.readOperand mode space
      = ((AddressSpace.read space cpu.address).1,
          { cpu with operand := (AddressSpace.read space cpu.address).1 },
          (AddressSpace.read space cpu.address).2) := by
  rw [readOperand, if_neg memory]

/-- Reading an operand leaves the registers alone. -/
theorem registers_readOperand (mode : AddressingMode) (space : β) :
    (cpu.readOperand mode space).2.1.registers = cpu.registers := by
  unfold readOperand
  split <;> rfl

/-- A byte that has no place in memory goes to the accumulator. -/
theorem registers_replaceOperand (mode : AddressingMode) (space : β) (value : UInt8) :
    (cpu.replaceOperand mode space value).1.registers
      = { cpu.registers with a := if mode = .implied then value else cpu.registers.a } := by
  unfold replaceOperand
  split <;> rfl

end Operands

/-- The addressing mode of an operation that works on the stack. -/
def Operation.stackMode? : Operation → Option AddressingMode
  | pha | php | pla | plp | rts | rti => some .implied
  | jsr => some .absolute
  | brk => some .immediate
  | _ => none

/-- An instruction on the stack has the mode that goes with its operation. -/
theorem Instruction.mode_of_stack (opcode : UInt8) {mode : AddressingMode}
    (stack : (ofOpcode opcode).operation.stackMode? = some mode) :
    (ofOpcode opcode).mode = mode := by
  revert mode
  exact @holds_ofOpcode (fun instruction =>
    ∀ {mode}, instruction.operation.stackMode? = some mode → instruction.mode = mode)
    (by decide) opcode

/-- A property that an effect's own change of the registers keeps. -/
def Effect.Keeps (Holds : Registers → Prop) : Effect → Prop
  | .load update | .pull update =>
    ∀ value registers, Holds registers → Holds (update value registers)
  | .transfer update => ∀ registers, Holds registers → Holds (update registers)
  | _ => True

/-- An effect that uses the stack pointer as an address. -/
def Effect.usesStack : Effect → Bool
  | .push _ | .pull _ | .call | .leaveCall | .leaveInterrupt | .enterInterrupt => true
  | _ => false

/-- An effect off the stack keeps what its own change of the registers keeps, provided that this
does not depend on the program counter, the accumulator and the flags of a result. -/
theorem keeps_perform {β : Type} [AddressSpace β] {Holds : Registers → Prop} {effect : Effect}
    (keeps : effect.Keeps Holds) (other : effect.usesStack = false)
    (counted : ∀ registers pc, Holds registers → Holds { registers with pc })
    (described : ∀ registers a carry result, Holds registers → Holds { registers with
      a, status := { registers.status with carry }.describe result })
    (mode : AddressingMode) {cpu : Cpu} (space : β) (holds : Holds cpu.registers) :
    Holds (cpu.perform mode effect space).1.registers := by
  cases effect with
  | load update =>
    change Holds (update _ (cpu.readOperand mode space).2.1.registers)
    rw [registers_readOperand]
    exact keeps _ _ holds
  | modify change =>
    simp only [perform, registers_replaceOperand, withRegisters, registers_readOperand]
    exact described cpu.registers _ _ _ holds
  | transfer update => exact keeps _ holds
  | branch taken =>
    simp only [perform]
    split
    · exact counted _ _ holds
    · exact holds
  | store => exact holds
  | jump => exact counted _ _ holds
  | push | pull | call | leaveCall | leaveInterrupt | enterInterrupt => cases other

section Instructions

variable {β : Type} [AddressSpace β] (cpu : Cpu) (space : β)

/-- The space once the opcode of the next instruction has been read. -/
def behindOpcode : β := (AddressSpace.read space cpu.registers.pc).2

/-- The processor that has read the opcode of the next instruction. -/
def opened : Cpu :=
  cpu.begun (AddressSpace.read space cpu.registers.pc).1 (cpu.nextInstruction space)

/-- The effective address of the next instruction. -/
def nextOperand? : Option UInt16 :=
  effective? (cpu.nextInstruction space).mode cpu.registers (cpu.registers.pc + 1)
    (cpu.behindOpcode space)

/-- The operand of the next instruction. -/
def nextFound : Found β :=
  findOperand (cpu.nextInstruction space).mode (cpu.opened space) (cpu.behindOpcode space)

/-- What the effect of the next instruction leaves. -/
def performed : Cpu × β :=
  (cpu.nextFound space).cpu.perform (cpu.nextInstruction space).mode
    (cpu.nextInstruction space).operation.effect (cpu.nextFound space).space

/-- The operand of the next instruction is at its effective address. -/
theorem address_nextFound {address : UInt16} (effective : cpu.nextOperand? space = some address) :
    (cpu.nextFound space).cpu.address = address :=
  address_findOperand _ (cpu.opened space) _ effective

/-- Before its effect takes place an instruction moves the program counter only. -/
theorem registers_nextFound :
    (cpu.nextFound space).cpu.registers = { cpu.registers with
      pc := cpu.registers.pc + 1 + .ofNat (cpu.nextInstruction space).mode.operandLength } :=
  registers_findOperand _ (cpu.opened space) _

/-- All steps of the next instruction, one after the other. -/
def carryOut : Cpu × β := cpu.steps space (cpu.duration space)

variable {cpu space} in
/-- An operation on the stack has an addressing mode of its own. -/
theorem performed_of_stack {operation : Operation} {mode : AddressingMode}
    (next : (cpu.nextInstruction space).operation = operation)
    (stack : operation.stackMode? = some mode) :
    cpu.performed space
      = (findOperand mode (cpu.opened space) (cpu.behindOpcode space)).cpu.perform mode
        operation.effect (findOperand mode (cpu.opened space) (cpu.behindOpcode space)).space := by
  have found : (cpu.nextInstruction space).mode = mode :=
    Instruction.mode_of_stack _ (next.symm ▸ stack)
  rw [performed, nextFound, found, next]

variable {cpu} (complete : cpu.complete = true)

include complete

/-- The first step leaves the registers that the effect leaves, with `unused` set. -/
theorem registers_step :
    (cpu.step space).1.registers
      = (cpu.performed space).1.registers.mapStatus
        fun status => { status with unused := true } := by
  rw [step_of_complete complete]
  rfl

/-- The first step leaves the space that the effect leaves. -/
theorem space_step : (cpu.step space).2 = (cpu.performed space).2 := by
  rw [step_of_complete complete]
  rfl

/-- The steps after the first one only count. -/
theorem carryOut_eq :
    cpu.carryOut space = ({ (cpu.step space).1 with cycles := 0 }, (cpu.step space).2) := by
  obtain ⟨count, all⟩ := Nat.exists_eq_add_of_le'
    (Nat.le_trans (by decide : 1 ≤ 2) (cpu.duration_bounds space).1)
  rw [carryOut, all]
  exact steps_succ complete all

/-- After its steps an instruction is over. -/
theorem complete_carryOut : (cpu.carryOut space).1.complete = true := by
  rw [carryOut_eq space complete]
  rfl

end Instructions

end Nes.Cpu
