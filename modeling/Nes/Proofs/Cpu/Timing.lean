import Nes.Proofs.Cpu.Cycles

/-!
# Timing of an instruction

An instruction takes the cycles of its entry in the opcode matrix, one more when an operation
that pays for it finds its operand by indexing beyond the page of the base, one more for a branch
that is taken, and another one when that branch leaves the page of the instruction behind it
(`Cpu.duration`). Its first step loads exactly this number into the count of the processor
(`Cpu.toNat_cycles_execute_eq`) and does everything else as well: the steps after it change the
count alone.
-/
namespace Nes.Cpu

/-- The page that an address lies on. -/
def page (address : UInt16) : Nat := address.toNat / 0x100

/-- The operations that take one cycle more for an operand beyond the page of its base. -/
def indexedReads : List Operation := [.adc, .and, .cmp, .eor, .lda, .ldx, .ldy, .ora, .sbc]

section Durations

variable {β : Type} [AddressSpace β]

/-- The base address and the index of an operand that is found by indexing a full address, when
the bytes behind the opcode start at `place`. -/
def indexing? (mode : AddressingMode) (registers : Registers) (place : UInt16) (space : β) :
    Option (UInt16 × UInt8) :=
  match mode with
  | .absoluteX => some ((readWord space place).1, registers.x)
  | .absoluteY => some ((readWord space place).1, registers.y)
  | .indirectY =>
    let (pointer, space) := AddressSpace.read space place
    some ((zeroPagePointer space pointer).1, registers.y)
  | _ => none

/-- Cycles that an operation takes for an operand beyond the page of its base. -/
def indexingCycles (operation : Operation) (indexing : Option (UInt16 × UInt8)) : Nat :=
  match indexing with
  | some (base, index) =>
    if page (base + index.toUInt16) ≠ page base ∧ operation ∈ indexedReads then 1 else 0
  | none => 0

/-- Cycles that an effect takes for a branch over `distance` from the instruction at `next`. -/
def branchCycles (effect : Effect) (status : Status) (next : UInt16) (distance : UInt8) : Nat :=
  match effect with
  | .branch taken =>
    if taken status then
      if page (next + distance.toInt8.toInt16.toUInt16) ≠ page next then 2 else 1
    else 0
  | _ => 0

/-- The instruction at the program counter. -/
def nextInstruction (cpu : Cpu) (space : β) : Instruction :=
  Instruction.ofOpcode (AddressSpace.read space cpu.registers.pc).1

/-- Cycles that the instruction at the program counter takes. -/
def duration (cpu : Cpu) (space : β) : Nat :=
  let (opcode, space) := AddressSpace.read space cpu.registers.pc
  let instruction := Instruction.ofOpcode opcode
  let place := cpu.registers.pc + 1
  instruction.cycles.toNat
    + indexingCycles instruction.operation
        (indexing? instruction.mode cpu.registers place space)
    + branchCycles instruction.operation.effect cpu.registers.status (place + 1)
        (AddressSpace.read space place).1

/-- Some steps, one after the other. -/
def steps (cpu : Cpu) (space : β) : Nat → Cpu × β
  | 0 => (cpu, space)
  | count + 1 =>
    let (cpu, space) := cpu.steps space count
    cpu.step space

end Durations

/-- Only instructions with a distance as their operand take cycles for a branch. -/
theorem Instruction.mode_of_branch (opcode : UInt8)
    (branches : (ofOpcode opcode).operation.effect.extraCycles ≠ 0) :
    (ofOpcode opcode).mode = .relative := by
  revert branches
  exact @holds_ofOpcode (fun instruction =>
    instruction.operation.effect.extraCycles ≠ 0 → instruction.mode = .relative)
    (by decide) opcode

/-- An instruction without an effect has no operand either. -/
theorem Instruction.mode_of_idle (opcode : UInt8)
    (idle : (ofOpcode opcode).operation = .unofficial ∨ (ofOpcode opcode).operation = .nop) :
    (ofOpcode opcode).mode = .implied := by
  revert idle
  exact @holds_ofOpcode (fun instruction =>
    instruction.operation = .unofficial ∨ instruction.operation = .nop →
      instruction.mode = .implied)
    (by decide) opcode

/-- The operations that pay for a page crossing are the indexed reads. -/
theorem paysForPageCross_iff (operation : Operation) :
    operation.paysForPageCross = true ↔ operation ∈ indexedReads := by
  cases operation <;> decide

/-- Addresses are on the same page where their high bytes are the same. -/
theorem samePage_iff (left right : UInt16) :
    samePage left right = true ↔ page left = page right := by
  rw [samePage, beq_iff_eq, ← UInt8.toNat_inj, toNat_highByte, toNat_highByte]
  exact Iff.rfl

section Execution

variable {β : Type} [AddressSpace β] (cpu : Cpu) (space : β)

/-- An operand counts as crossed when indexing leaves the page of the base. -/
theorem crossed_findOperand (mode : AddressingMode) :
    (findOperand mode cpu space).crossed
      = match indexing? mode cpu.registers cpu.registers.pc space with
        | some (base, index) => !samePage base (base + index.toUInt16)
        | none => false := by
  cases mode <;> rfl

/-- Only an operation that pays for it takes a cycle for its index, and not more than one. -/
theorem indexingCycles_le (operation : Operation) (indexing : Option (UInt16 × UInt8)) :
    indexingCycles operation indexing ≤ operation.paysForPageCross.toNat := by
  unfold indexingCycles
  split
  · split
    case isTrue crosses =>
      rw [(paysForPageCross_iff operation).2 crosses.2]
      exact Nat.le_refl 1
    case isFalse => exact Nat.zero_le _
  · exact Nat.zero_le _

/-- The cycle of a crossed page is the one that indexing takes. -/
theorem toNat_crossingCycle (mode : AddressingMode) (operation : Operation) :
    (if (findOperand mode cpu space).crossed && operation.paysForPageCross then 1
      else 0 : UInt8).toNat
      = indexingCycles operation (indexing? mode cpu.registers cpu.registers.pc space) := by
  rw [crossed_findOperand]
  cases indexing? mode cpu.registers cpu.registers.pc space
  case none => rfl
  case some indexed =>
    obtain ⟨base, index⟩ := indexed
    have crosses : (!samePage base (base + index.toUInt16) && operation.paysForPageCross) = true
        ↔ page (base + index.toUInt16) ≠ page base ∧ operation ∈ indexedReads := by
      rw [Bool.and_eq_true, Bool.not_eq_true', ← Bool.not_eq_true, samePage_iff,
        paysForPageCross_iff, eq_comm]
    simp only [indexingCycles, crosses]
    split <;> rfl

/-- A taken branch adds its cycles to those of the instruction. -/
theorem toNat_cycles_takenBranch (fits : cpu.cycles.toNat + 2 < 256) :
    cpu.takeBranch.cycles.toNat = cpu.cycles.toNat
      + if page (cpu.registers.pc + cpu.distance) ≠ page cpu.registers.pc then 2 else 1 := by
  have taken : cpu.takeBranch.cycles = cpu.cycles
      + if page (cpu.registers.pc + cpu.distance) ≠ page cpu.registers.pc then 2 else 1 := by
    simp only [takeBranch, samePage_iff, ite_not]
    rfl
  rw [taken, UInt8.toNat_add]
  split
  · rw [show (2 : UInt8).toNat = 2 from rfl]
    omega
  · rw [show (1 : UInt8).toNat = 1 from rfl]
    omega

/-- An effect adds the cycles of a branch that is taken, and no others. -/
theorem toNat_cycles_branch (mode : AddressingMode) (effect : Effect)
    (relative : effect.extraCycles ≠ 0 → mode = .relative)
    (fits : cpu.cycles.toNat + effect.extraCycles < 256) :
    ((findOperand mode cpu space).cpu.perform mode effect
        (findOperand mode cpu space).space).1.cycles.toNat
      = cpu.cycles.toNat + branchCycles effect cpu.registers.status (cpu.registers.pc + 1)
          (AddressSpace.read space cpu.registers.pc).1 := by
  have started := cpu.cycles_findOperand space mode
  cases effect
  case branch taken =>
    obtain rfl := relative (by simp [Effect.extraCycles])
    change cpu.cycles.toNat + 2 < 256 at fits
    simp only [perform, branchCycles]
    change (if taken cpu.registers.status then _ else _ : Cpu).cycles.toNat = _
    split
    · exact toNat_cycles_takenBranch _ fits
    · rfl
  all_goals
    have kept := (findOperand mode cpu space).cpu.toNat_cycles_perform
      (findOperand mode cpu space).space mode _ (by rw [started]; exact fits)
    rw [started] at kept
    exact Nat.le_antisymm kept.2 kept.1

/-- The processor that has read the opcode of an instruction and finds the operand next. -/
def begun (opcode : UInt8) (instruction : Instruction) : Cpu :=
  { cpu.jumpTo (cpu.registers.pc + 1) with opcode, cycles := instruction.cycles }

variable {cpu space}

/-- The count that an instruction starts with is the one that its effect leaves, and the cycle of
a crossed page. -/
theorem cycles_execute {opcode : UInt8} {behind : β}
    (fetched : AddressSpace.read space cpu.registers.pc = (opcode, behind)) :
    let instruction := Instruction.ofOpcode opcode
    let found := findOperand instruction.mode (cpu.begun opcode instruction) behind
    (cpu.execute space).1.cycles
      = (found.cpu.perform instruction.mode instruction.operation.effect found.space).1.cycles
        + if found.crossed && instruction.operation.paysForPageCross then 1 else 0 := by
  simp only [execute, fetchByte, fetched]
  rfl

variable (cpu space)

/-- The first step of an instruction loads the count with all the cycles that it takes. -/
theorem toNat_cycles_execute_eq :
    (cpu.execute space).1.cycles.toNat = cpu.duration space := by
  generalize fetched : AddressSpace.read space cpu.registers.pc = outcome
  obtain ⟨opcode, behind⟩ := outcome
  have timed := Instruction.timed_ofOpcode opcode
  have relative := Instruction.mode_of_branch opcode
  rw [cycles_execute fetched]
  simp only [duration, fetched]
  generalize Instruction.ofOpcode opcode = instruction at timed relative ⊢
  have crossing := (cpu.begun opcode instruction).toNat_crossingCycle behind instruction.mode
    instruction.operation
  have paid := indexingCycles_le instruction.operation (indexing? instruction.mode
    (cpu.begun opcode instruction).registers (cpu.begun opcode instruction).registers.pc behind)
  have started := (cpu.begun opcode instruction).cycles_findOperand behind instruction.mode
  have branch := (cpu.begun opcode instruction).toNat_cycles_branch behind instruction.mode
    instruction.operation.effect relative (by
      have most := timed.2
      rw [Instruction.cyclesAtMost] at most
      change instruction.cycles.toNat + _ < 256
      omega)
  generalize findOperand instruction.mode (cpu.begun opcode instruction) behind = found
    at crossing started branch ⊢
  have few := (found.cpu.toNat_cycles_performed found.space timed started instruction.mode).2
  rw [UInt8.toNat_add, crossing, Nat.mod_eq_of_lt (by omega), branch]
  exact Nat.add_right_comm _ _ _

/-- An instruction takes from two to eight cycles. -/
theorem duration_bounds : 2 ≤ cpu.duration space ∧ cpu.duration space ≤ 8 := by
  rw [← toNat_cycles_execute_eq]
  exact cpu.toNat_cycles_execute space

end Execution

section Steps

variable {β : Type} [AddressSpace β] {cpu : Cpu} {space : β}

/-- The first step of an instruction carries it out and counts one of its cycles. -/
theorem step_of_complete (complete : cpu.complete = true) :
    cpu.step space = ({ (cpu.execute space).1 with cycles := (cpu.execute space).1.cycles - 1 },
      (cpu.execute space).2) := by
  simp only [step, complete, if_true]

/-- A count of a few cycles is used up when it is zero. -/
theorem ofNat_eq_zero_iff {count : Nat} (few : count ≤ 8) :
    UInt8.ofNat count = 0 ↔ count = 0 := by
  rw [← UInt8.toNat_inj, UInt8.toNat_ofNat_of_lt' (by change count < 256; omega)]
  exact Iff.rfl

/-- A step of an instruction that has cycles left only counts one of them. -/
theorem step_of_left {left : Nat} (few : left + 1 ≤ 8) :
    ({ cpu with cycles := .ofNat (left + 1) } : Cpu).step space
      = ({ cpu with cycles := .ofNat left }, space) := by
  have incomplete : (UInt8.ofNat (left + 1) == 0) = false := by
    rw [beq_eq_false_iff_ne, Ne, ofNat_eq_zero_iff few]
    exact Nat.succ_ne_zero left
  have counted : UInt8.ofNat (left + 1) - 1 = .ofNat left :=
    (UInt8.ofNat_sub (Nat.le_add_left 1 left)).symm
  simp only [step, Cpu.complete, incomplete, counted, Bool.false_eq_true, if_false]

/-- After some of its steps an instruction stands where its first step has led, with the cycles
that are left to it. -/
theorem steps_succ (complete : cpu.complete = true) {count left : Nat}
    (all : cpu.duration space = count + 1 + left) :
    cpu.steps space (count + 1)
      = ({ (cpu.step space).1 with cycles := .ofNat left }, (cpu.step space).2) := by
  have most := (cpu.duration_bounds space).2
  induction count generalizing left
  case zero =>
    have loaded : (cpu.execute space).1.cycles - 1 = .ofNat left := by
      rw [← UInt8.ofNat_toNat (x := (cpu.execute space).1.cycles), toNat_cycles_execute_eq, all,
        Nat.zero_add, Nat.add_comm]
      exact (UInt8.ofNat_sub (Nat.le_add_left 1 left)).symm
    change cpu.step space = _
    rw [step_of_complete complete, loaded]
  case succ count followed =>
    have before := followed (show cpu.duration space = count + 1 + (left + 1) by omega)
    rw [steps, before]
    exact step_of_left (by omega)

/-- A record of the accesses does not change what an instruction takes. -/
theorem duration_traced : cpu.duration (Traced.start space) = cpu.duration space := by
  have indexing (mode : AddressingMode) (place : UInt16) (traced : Traced β) :
      indexing? mode cpu.registers place traced
        = indexing? mode cpu.registers place traced.space := by
    cases mode <;> rfl
  simp only [duration, indexing]
  rfl

/-- An opcode without an effect is read and gone past, and nothing else happens. -/
theorem execute_of_idle
    (idle : (cpu.nextInstruction space).operation = .unofficial
      ∨ (cpu.nextInstruction space).operation = .nop) :
    (cpu.execute space).1.registers = { cpu.registers with
        pc := cpu.registers.pc + 1, status := { cpu.registers.status with unused := true } }
      ∧ (cpu.execute space).2 = (AddressSpace.read space cpu.registers.pc).2 := by
  rw [nextInstruction] at idle
  generalize fetched : AddressSpace.read space cpu.registers.pc = outcome at idle ⊢
  obtain ⟨opcode, behind⟩ := outcome
  have implied := Instruction.mode_of_idle opcode idle
  have effect : (Instruction.ofOpcode opcode).operation.effect = .transfer id := by
    cases idle with
    | inl unofficial => rw [unofficial]; rfl
    | inr nop => rw [nop]; rfl
  simp only [execute, fetchByte, fetched, implied, effect]
  exact ⟨rfl, rfl⟩

/-- An instruction is over after exactly the cycles of its duration, from two to eight. The first
of its steps does all its work, and of the later ones the state and the record of the accesses
show nothing but the count. An opcode without an effect is read and gone past, and nothing else
happens. -/
theorem steps_of_complete (cpu : Cpu) (space : β) (complete : cpu.complete = true) :
    2 ≤ cpu.duration space ∧ cpu.duration space ≤ 8
      ∧ (∀ count, 1 ≤ count → count ≤ cpu.duration space →
        cpu.steps space count
          = ({ (cpu.step space).1 with cycles := .ofNat (cpu.duration space - count) },
            (cpu.step space).2)
        ∧ (cpu.steps (Traced.start space) count).2.log = (cpu.step (Traced.start space)).2.log
        ∧ ((cpu.steps space count).1.complete = true ↔ count = cpu.duration space))
      ∧ ((cpu.nextInstruction space).operation = .unofficial
          ∨ (cpu.nextInstruction space).operation = .nop →
        (cpu.step space).1.registers = { cpu.registers with
            pc := cpu.registers.pc + 1, status := { cpu.registers.status with unused := true } }
        ∧ (cpu.step space).2 = (AddressSpace.read space cpu.registers.pc).2
        ∧ (cpu.step (Traced.start space)).2.log = [.read cpu.registers.pc]) := by
  obtain ⟨least, most⟩ := cpu.duration_bounds space
  refine ⟨least, most, ?counting, ?idling⟩
  case counting =>
    intro count begun within
    obtain ⟨count, rfl⟩ := Nat.exists_eq_add_of_le' begun
    obtain ⟨left, all⟩ := Nat.exists_eq_add_of_le within
    have stands := steps_succ complete all
    have allTraced : cpu.duration (Traced.start space) = count + 1 + left :=
      duration_traced.trans all
    have traced := steps_succ complete allTraced
    have rest : cpu.duration space - (count + 1) = left := by omega
    rw [stands, traced, rest]
    refine ⟨rfl, rfl, ?_⟩
    change (UInt8.ofNat left == 0) = true ↔ _
    rw [beq_iff_eq, ofNat_eq_zero_iff (by omega)]
    omega
  case idling =>
    intro idle
    obtain ⟨registers, read⟩ := execute_of_idle idle
    have idleTraced : (cpu.nextInstruction (Traced.start space)).operation = .unofficial
        ∨ (cpu.nextInstruction (Traced.start space)).operation = .nop := idle
    have traced := (execute_of_idle idleTraced).2
    rw [step_of_complete complete, step_of_complete complete, traced]
    exact ⟨registers, read, rfl⟩

/-- A load with an index at an address on the page before takes five cycles. -/
theorem steps_of_complete_crossedLoad :
    let cpu : Cpu := { powerOn with registers := { Registers.powerOn with x := 1, pc := 0x8000 } }
    let memory : FlatMemory := ⟨((Memory.zeros _).write 0x8000 0xBD).write 0x8001 0xFF⟩
    cpu.complete = true ∧ cpu.duration memory = 5
      ∧ ∀ count, 1 ≤ count → count ≤ 5 →
        ((cpu.steps memory count).1.complete = true ↔ count = 5) := by
  intro cpu memory
  have long : cpu.duration memory = 5 := by
    have opcode : memory.cells.read 0x8000 = 0xBD := by
      rw [Memory.read_write_of_other_cell _ _ (by decide),
        Memory.read_write_of_same_cell _ _ rfl]
    have low : memory.cells.read 0x8001 = 0xFF := Memory.read_write_of_same_cell _ _ rfl
    have high : memory.cells.read 0x8002 = 0x00 := by
      rw [Memory.read_write_of_other_cell _ _ (by decide),
        Memory.read_write_of_other_cell _ _ (by decide), Memory.read_zeros]
    have load : Instruction.ofOpcode 0xBD = ⟨.lda, .absoluteX, 4⟩ := by decide
    have base : (readWord memory 0x8001).1 = 0x00FF := by
      change wordOf (memory.cells.read 0x8001) (memory.cells.read 0x8002) = 0x00FF
      rw [low, high]
      decide
    change (let instruction := Instruction.ofOpcode (memory.cells.read 0x8000)
      instruction.cycles.toNat
        + indexingCycles instruction.operation
            (indexing? instruction.mode cpu.registers 0x8001 memory)
        + branchCycles instruction.operation.effect cpu.registers.status 0x8002 _) = 5
    rw [opcode, load]
    simp only [indexing?, base]
    decide
  have timing := steps_of_complete cpu memory rfl
  rw [long] at timing
  exact ⟨rfl, long, fun count begun within => (timing.2.2.1 count begun within).2.2⟩

end Steps

end Nes.Cpu
