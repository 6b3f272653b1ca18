import Nes.Proofs.Cpu.Execution

/-!
# Accesses of an instruction

Registers of the machine change when they are read, so a program depends on which addresses an
instruction touches, how often and in which order. The list is the opcode, the bytes of the operand,
the pointer of an indirect mode, the operand itself, the stack, and the vector of a software
interrupt. Each part is given here by the mode or by the operation alone; that the parts are what
the processor does is proved once for each mode and once for each shape of effect, over a space with
a record of its accesses.
-/
namespace Nes.Cpu

/-- An access without the byte that it moves. -/
inductive Touch where
  /-- A byte is read. -/
  | read (address : UInt16)
  /-- A byte is written. -/
  | write (address : UInt16)
deriving DecidableEq

/-- The address that is touched. -/
def Touch.address : Touch → UInt16
  | read address | write address => address

/-- What an access touches. -/
def Access.touch : Access → Touch
  | .read address => .read address
  | .write address _ => .write address

/-- The bytes that an operand has behind the opcode, from `place` on. An immediate operand is not
read to be found, and neither is the padding byte of a software interrupt. -/
def operandPlaces (mode : AddressingMode) (place : UInt16) : List UInt16 :=
  match mode with
  | .implied | .immediate => []
  | .relative | .zeroPage | .zeroPageX | .zeroPageY | .indirectX | .indirectY => [place]
  | .absolute | .absoluteX | .absoluteY | .indirect => [place, place + 1]

/-- The bytes of the pointer that an indirect mode goes through. -/
def pointerPlaces {β : Type} [AddressSpace β] (mode : AddressingMode) (registers : Registers)
    (place : UInt16) (space : β) : List UInt16 :=
  match mode with
  | .indirect =>
    let pointer := (readWord space place).1
    [pointer, wordOf (lowByte pointer + 1) (highByte pointer)]
  | .indirectX =>
    let pointer := (AddressSpace.read space place).1 + registers.x
    [pointer.toUInt16, (pointer + 1).toUInt16]
  | .indirectY =>
    let pointer := (AddressSpace.read space place).1
    [pointer.toUInt16, (pointer + 1).toUInt16]
  | _ => []

/-- The operations that read their operand. -/
def readers : List Operation :=
  [.adc, .and, .bit, .cmp, .cpx, .cpy, .eor, .lda, .ldx, .ldy, .ora, .sbc]

/-- The operations that change their operand in its place. -/
def changers : List Operation := [.asl, .dec, .inc, .lsr, .rol, .ror]

/-- The operations that store a register. -/
def writers : List Operation := [.sta, .stx, .sty]

namespace Operation

/-- What an operation touches at the effective address of its operand. -/
def operandTouches (operation : Operation) (operand : Option UInt16) : List Touch :=
  if operation ∈ readers then operand.toList.map .read
  else if operation ∈ changers then
    operand.toList.flatMap fun address => [.read address, .write address]
  else if operation ∈ writers then operand.toList.map .write
  else []

/-- What an operation touches on the stack. -/
def stackTouches (operation : Operation) (sp : UInt8) : List Touch :=
  match operation with
  | pha | php => [.write (stackAddress sp)]
  | pla | plp => [.read (stackAddress (sp + 1))]
  | jsr => [.write (stackAddress sp), .write (stackAddress (sp - 1))]
  | rts => [.read (stackAddress (sp + 1)), .read (stackAddress (sp + 2))]
  | rti =>
    [.read (stackAddress (sp + 1)), .read (stackAddress (sp + 2)), .read (stackAddress (sp + 3))]
  | brk =>
    [.write (stackAddress sp), .write (stackAddress (sp - 1)), .write (stackAddress (sp - 2))]
  | _ => []

/-- What an operation touches of the vectors. -/
def vectorTouches : Operation → List Touch
  | brk => [.read 0xFFFE, .read 0xFFFF]
  | _ => []

end Operation

/-- The stack lies on page one. -/
theorem page_stackAddress (pointer : UInt8) : page (stackAddress pointer) = 1 := by
  have bound := pointer.toNat_lt
  rw [page, stackAddress, toNat_wordOf, show (0x01 : UInt8).toNat = 1 from rfl]
  omega

/-- A byte is an address on page zero. -/
theorem toNat_toUInt16_lt (byte : UInt8) : byte.toUInt16.toNat < 0x100 := by
  rw [UInt8.toNat_toUInt16]
  exact byte.toNat_lt

/-- The stack is the page one. -/
theorem page_of_stackTouches {operation : Operation} {sp : UInt8} {touch : Touch}
    (touched : touch ∈ operation.stackTouches sp) : page touch.address = 1 := by
  have stacked : ∃ pointer, touch.address = stackAddress pointer := by
    unfold Operation.stackTouches at touched
    split at touched
    case h_9 => cases touched
    all_goals
      simp only [List.mem_cons, List.not_mem_nil, or_false] at touched
      rcases touched with rfl | rfl | rfl <;> exact ⟨_, rfl⟩
  obtain ⟨pointer, at_pointer⟩ := stacked
  rw [at_pointer]
  exact page_stackAddress pointer

section Places

variable {β : Type} [AddressSpace β] {mode : AddressingMode} {registers : Registers}
  {place : UInt16} {space : β}

/-- A pointer of an indexed indirect mode lies in page zero. -/
theorem pointerPlaces_lt {address : UInt16} (indexed : mode = .indirectX ∨ mode = .indirectY)
    (pointer : address ∈ pointerPlaces mode registers place space) : address.toNat < 0x100 := by
  obtain rfl | rfl := indexed
  all_goals
    simp only [pointerPlaces, List.mem_cons, List.not_mem_nil, or_false] at pointer
    obtain rfl | rfl := pointer <;> exact toNat_toUInt16_lt _

/-- The pointer of an indirect jump lies on one page. -/
theorem page_of_pointerPlaces {address : UInt16}
    (pointer : address ∈ pointerPlaces .indirect registers place space) :
    page address = page (readWord space place).1 := by
  simp only [pointerPlaces, List.mem_cons, List.not_mem_nil, or_false] at pointer
  obtain rfl | rfl := pointer
  · rfl
  · rw [← samePage_iff, samePage, highByte_wordOf]
    exact beq_self_eq_true _

/-- An operand that is found in page zero stays there, with an index or without. -/
theorem effective?_lt {address : UInt16}
    (zeroPage : mode = .zeroPage ∨ mode = .zeroPageX ∨ mode = .zeroPageY)
    (effective : effective? mode registers place space = some address) :
    address.toNat < 0x100 := by
  obtain rfl | rfl | rfl := zeroPage
  all_goals
    rw [← Option.some.inj effective]
    exact toNat_toUInt16_lt _

end Places

/-- What an effect touches, by its shape. -/
def Effect.touches (effect : Effect) (operand : Option UInt16) (sp : UInt8) : List Touch :=
  match effect with
  | .load _ => operand.toList.map .read
  | .modify _ => operand.toList.flatMap fun address => [.read address, .write address]
  | .store _ => operand.toList.map .write
  | .push _ => [.write (stackAddress sp)]
  | .pull _ => [.read (stackAddress (sp + 1))]
  | .call => [.write (stackAddress sp), .write (stackAddress (sp - 1))]
  | .leaveCall => [.read (stackAddress (sp + 1)), .read (stackAddress (sp + 2))]
  | .leaveInterrupt =>
    [.read (stackAddress (sp + 1)), .read (stackAddress (sp + 2)), .read (stackAddress (sp + 3))]
  | .enterInterrupt =>
    [.write (stackAddress sp), .write (stackAddress (sp - 1)), .write (stackAddress (sp - 2)),
      .read 0xFFFE, .read 0xFFFF]
  | .transfer _ | .branch _ | .jump => []

/-- The parts of what an operation touches follow the shape of its effect. -/
theorem Operation.touches_effect (operation : Operation) (operand : Option UInt16) (sp : UInt8) :
    operation.operandTouches operand ++ operation.stackTouches sp ++ operation.vectorTouches
      = operation.effect.touches operand sp := by
  cases operation
  all_goals first | rfl | exact (List.append_nil _).trans (List.append_nil _)

/-- An operation on memory has an operand that it can touch. -/
def Instruction.Placed (instruction : Instruction) : Prop :=
  (instruction.operation ∈ readers ++ changers ++ writers → instruction.mode ≠ .relative)
    ∧ (instruction.operation ∈ writers ++ [.inc, .dec] → instruction.mode ≠ .implied)

instance (instruction : Instruction) : Decidable instruction.Placed :=
  inferInstanceAs (Decidable (_ ∧ _))

/-- Every entry of the opcode matrix has an operand where its operation needs one. -/
theorem Instruction.placed_ofOpcode (opcode : UInt8) : (ofOpcode opcode).Placed :=
  holds_ofOpcode (by decide) opcode

/-- What the recorded accesses touch. -/
def Traced.touches {β : Type} (traced : Traced β) : List Touch := traced.log.map Access.touch

/-- Accesses that a record has gained are touches behind the ones before. -/
theorem Traced.touches_of_reversedLog {β : Type} (accesses : List Access)
    {before after : Traced β}
    (recorded : after.reversedLog = accesses.reverse ++ before.reversedLog) :
    after.touches = before.touches ++ accesses.map Access.touch := by
  rw [touches, touches, log, log, recorded, List.reverse_append, List.reverse_reverse,
    List.map_append]

section Record

variable {β : Type} [AddressSpace β] (cpu : Cpu) (traced : Traced β)

/-- Finding an operand reads its bytes and then its pointer. -/
theorem touches_findOperand (mode : AddressingMode) :
    (findOperand mode cpu traced).space.touches
      = traced.touches ++ (operandPlaces mode cpu.registers.pc
        ++ pointerPlaces mode cpu.registers cpu.registers.pc traced.space).map .read := by
  have recorded : (findOperand mode cpu traced).space.reversedLog
      = ((operandPlaces mode cpu.registers.pc
        ++ pointerPlaces mode cpu.registers cpu.registers.pc traced.space).map
          Access.read).reverse ++ traced.reversedLog := by
    cases mode <;> rfl
  rw [Traced.touches_of_reversedLog _ recorded, List.map_map]
  rfl

/-- The address that an effect finds noted for its operand, unless that is the accumulator. -/
def noted? (mode : AddressingMode) : Option UInt16 :=
  if mode = .implied then none else some cpu.address

/-- An effect touches what its shape tells. -/
theorem touches_perform (mode : AddressingMode) {effect : Effect}
    (stored : ∀ source, effect = .store source → mode ≠ .implied) :
    (cpu.perform mode effect traced).2.touches
      = traced.touches ++ effect.touches (cpu.noted? mode) cpu.registers.sp := by
  have third : cpu.registers.sp + 2 + 1 = cpu.registers.sp + 3 := UInt8.add_assoc _ _ _
  cases effect
  case load update =>
    by_cases implied : mode = .implied
    · simp only [perform, readOperand, noted?, if_pos implied]
      exact (List.append_nil _).symm
    · simp only [perform, readOperand, noted?, if_neg implied]
      exact Traced.touches_of_reversedLog [.read _] rfl
  case modify change =>
    by_cases implied : mode = .implied
    · simp only [perform, readOperand, replaceOperand, noted?, if_pos implied]
      exact (List.append_nil _).symm
    · simp only [perform, readOperand, replaceOperand, noted?, if_neg implied]
      exact Traced.touches_of_reversedLog [.read _, .write _ _] rfl
  case store source =>
    rw [noted?, if_neg (stored source rfl)]
    exact Traced.touches_of_reversedLog [.write _ _] rfl
  case transfer | branch | jump => exact (List.append_nil _).symm
  case push => exact Traced.touches_of_reversedLog [.write _ _] rfl
  case pull => exact Traced.touches_of_reversedLog [.read _] rfl
  case call => exact Traced.touches_of_reversedLog [.write _ _, .write _ _] rfl
  case leaveCall =>
    rw [Effect.touches, ← add_one_one]
    exact Traced.touches_of_reversedLog [.read _, .read _] rfl
  case leaveInterrupt =>
    rw [Effect.touches, ← third, ← add_one_one]
    exact Traced.touches_of_reversedLog [.read _, .read _, .read _] rfl
  case enterInterrupt =>
    rw [Effect.touches, ← sub_one_one]
    exact Traced.touches_of_reversedLog
      [.write _ _, .write _ _, .write _ _, .read _, .read _] rfl

end Record

section Instructions

variable {β : Type} [AddressSpace β] (cpu : Cpu) (space : β)

/-- An operation that uses memory has an effective address, unless it works on the accumulator. -/
theorem exists_nextOperand
    (uses : (cpu.nextInstruction space).operation ∈ readers ++ changers ++ writers)
    (memory : (cpu.nextInstruction space).mode ≠ .implied) :
    ∃ address, cpu.nextOperand? space = some address := by
  have placed := Instruction.placed_ofOpcode (AddressSpace.read space cpu.registers.pc).1
  apply Option.ne_none_iff_exists'.1
  intro none
  obtain implied | relative := effective?_eq_none_iff.1 none
  · exact memory implied
  · exact placed.1 uses relative

/-- What an operation touches is at the effective address. -/
theorem operandTouches_noted :
    (cpu.nextInstruction space).operation.operandTouches
        ((cpu.nextFound space).cpu.noted? (cpu.nextInstruction space).mode)
      = (cpu.nextInstruction space).operation.operandTouches (cpu.nextOperand? space) := by
  by_cases implied : (cpu.nextInstruction space).mode = .implied
  · rw [noted?, if_pos implied, nextOperand?, implied]
    rfl
  by_cases uses : (cpu.nextInstruction space).operation ∈ readers ++ changers ++ writers
  · obtain ⟨address, operand⟩ := cpu.exists_nextOperand space uses implied
    rw [noted?, if_neg implied, operand, cpu.address_nextFound space operand]
  · simp only [List.mem_append, not_or] at uses
    simp only [Operation.operandTouches, uses.1.1, uses.1.2, uses.2, if_false]

/-- A record does not change where an operand is found. -/
theorem cpu_nextFound_traced :
    (cpu.nextFound (Traced.start space)).cpu = (cpu.nextFound space).cpu := by
  rw [nextFound, nextFound]
  change (findOperand (cpu.nextInstruction space).mode _ _).cpu = _
  cases (cpu.nextInstruction space).mode <;> rfl

/-- An operand is found behind the opcode. -/
theorem touches_nextFound :
    (cpu.nextFound (Traced.start space)).space.touches
      = [.read cpu.registers.pc]
        ++ (operandPlaces (cpu.nextInstruction space).mode (cpu.registers.pc + 1)
          ++ pointerPlaces (cpu.nextInstruction space).mode cpu.registers (cpu.registers.pc + 1)
            (cpu.behindOpcode space)).map .read :=
  touches_findOperand (cpu.opened space) (cpu.behindOpcode (Traced.start space))
    (cpu.nextInstruction space).mode

/-- A store has its operand in memory. -/
theorem mode_of_store (source : Registers → UInt8)
    (stores : (cpu.nextInstruction space).operation.effect = .store source) :
    (cpu.nextInstruction space).mode ≠ .implied := by
  have placed := Instruction.placed_ofOpcode (AddressSpace.read space cpu.registers.pc).1
  apply placed.2
  change (cpu.nextInstruction space).operation ∈ writers ++ [.inc, .dec]
  revert stores
  generalize (cpu.nextInstruction space).operation = operation
  cases operation <;> first | exact fun _ => by decide | exact nofun

/-- An effect takes place behind the operand. -/
theorem touches_performed :
    (cpu.performed (Traced.start space)).2.touches
      = (cpu.nextFound (Traced.start space)).space.touches
        ++ (cpu.nextInstruction space).operation.effect.touches
          ((cpu.nextFound space).cpu.noted? (cpu.nextInstruction space).mode)
          cpu.registers.sp := by
  have sp : (cpu.nextFound space).cpu.registers.sp = cpu.registers.sp := by
    rw [registers_nextFound]
  refine (touches_perform (cpu.nextFound (Traced.start space)).cpu _ _
    (cpu.mode_of_store space)).trans ?_
  rw [cpu_nextFound_traced, sp]

/-- All accesses of an instruction: the opcode, the bytes of the operand, the pointer, what the
operation does to its operand, the stack, and the vector of a software interrupt. Operations that
use memory have an effective address; only reads, shifts and rotations can go without, and work on
the accumulator then. Operands and pointers of page zero stay there, the pointer of an indirect jump
stays on its page, and the stack is page one. -/
theorem touches_carryOut (cpu : Cpu) (space : β) (complete : cpu.complete = true) :
    let instruction := cpu.nextInstruction space
    let place := cpu.registers.pc + 1
    let pointer := pointerPlaces instruction.mode cpu.registers place (cpu.behindOpcode space)
    let operand := cpu.nextOperand? space
    (cpu.carryOut (Traced.start space)).2.touches
        = [.read cpu.registers.pc]
          ++ (operandPlaces instruction.mode place ++ pointer).map .read
          ++ instruction.operation.operandTouches operand
          ++ instruction.operation.stackTouches cpu.registers.sp
          ++ instruction.operation.vectorTouches
      ∧ (instruction.operation ∈ readers ++ changers ++ writers → instruction.mode ≠ .implied →
        ∃ address, operand = some address)
      ∧ (instruction.operation ∈ writers ++ [.inc, .dec] → ∃ address, operand = some address)
      ∧ (instruction.mode ∈ [.zeroPage, .zeroPageX, .zeroPageY] →
        ∀ address ∈ operand, address.toNat < 0x100)
      ∧ (instruction.mode ∈ [.indirectX, .indirectY] →
        ∀ address ∈ pointer, address.toNat < 0x100)
      ∧ (instruction.mode = .indirect →
        ∀ address ∈ pointer, page address = page (readWord (cpu.behindOpcode space) place).1)
      ∧ ∀ touch ∈ instruction.operation.stackTouches cpu.registers.sp,
        page touch.address = 1 := by
  intro instruction place pointer operand
  have placed := Instruction.placed_ofOpcode (AddressSpace.read space cpu.registers.pc).1
  refine ⟨?list, cpu.exists_nextOperand space, ?needed, ?zeroPage, ?indexed, ?indirect, ?stack⟩
  case list =>
    rw [carryOut_eq _ complete, space_step _ complete, touches_performed, touches_nextFound,
      ← Operation.touches_effect, operandTouches_noted, ← List.append_assoc, ← List.append_assoc]
  case needed =>
    intro needs
    apply cpu.exists_nextOperand space _ (placed.2 needs)
    have included : writers ++ [.inc, .dec] ⊆ readers ++ changers ++ writers := by decide
    exact included needs
  case zeroPage =>
    intro zeroPage address effective
    exact effective?_lt (by simpa using zeroPage) effective
  case indexed =>
    intro indexed address member
    exact pointerPlaces_lt (by simpa using indexed) member
  case indirect =>
    intro indirect address member
    rw [show pointer = pointerPlaces .indirect cpu.registers place (cpu.behindOpcode space) from
      congrArg (pointerPlaces · _ _ _) indirect] at member
    exact page_of_pointerPlaces member
  case stack =>
    intro touch touched
    exact page_of_stackTouches touched

/-- The jump through a pointer at the end of a page reads its high byte at the start of that
page. -/
theorem touches_carryOut_pageEnd :
    let cpu : Cpu := { powerOn with registers := { Registers.powerOn with pc := 0x8000 } }
    let memory : FlatMemory := ⟨.ofFn fun cell =>
      match cell.val with
      | 0x8000 => 0x6C
      | 0x8001 => 0xFF
      | 0x8002 => 0x30
      | _ => 0⟩
    cpu.complete = true
      ∧ (cpu.carryOut (Traced.start memory)).2.touches
        = [.read 0x8000, .read 0x8001, .read 0x8002, .read 0x30FF, .read 0x3000] := by
  intro cpu memory
  have opcode : memory.cells.read 0x8000 = 0x6C :=
    Memory.read_ofFn _ (by decide : 0x8000 < 0x10000)
  have low : memory.cells.read 0x8001 = 0xFF :=
    Memory.read_ofFn _ (by decide : 0x8001 < 0x10000)
  have high : memory.cells.read 0x8002 = 0x30 :=
    Memory.read_ofFn _ (by decide : 0x8002 < 0x10000)
  have jump : cpu.nextInstruction memory = ⟨.jmp, .indirect, 5⟩ := by
    change Instruction.ofOpcode (memory.cells.read 0x8000) = _
    rw [opcode]
    decide
  have pointer : (readWord memory 0x8001).1 = 0x30FF := by
    change wordOf (memory.cells.read 0x8001) (memory.cells.read 0x8002) = _
    rw [low, high]
    decide
  have touched := (touches_carryOut cpu memory rfl).1
  rw [jump] at touched
  refine ⟨rfl, touched.trans ?_⟩
  change [_] ++ ([_, _] ++ [(readWord memory 0x8001).1, wordOf
    (lowByte (readWord memory 0x8001).1 + 1) (highByte (readWord memory 0x8001).1)]).map Touch.read
    ++ _ ++ _ ++ _ = _
  rw [pointer]
  decide

end Instructions

end Nes.Cpu
