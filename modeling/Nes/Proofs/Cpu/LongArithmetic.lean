import Nes.Proofs.Cpu.ByteSum
import Nes.Proofs.Cpu.FlatMemory

/-!
# Arithmetic on numbers that are many bytes long

A program adds two numbers in memory byte by byte: it clears the carry, and then loads a byte of the
one, adds the byte of the other and stores the sum, from the least significant byte up. Loads and
stores leave the carry alone, so that each addition finds the carry of the one before
(`Executes.digit`), and the whole is one addition with carry (`Executes.digits`). Subtraction begins
with the carry set and adds complements. The decimal flag has no part in any of this.
-/
namespace Nes.Cpu

/-- An instruction of a program: what it does, and the place of its operand. -/
structure Line where
  /-- What the instruction does. -/
  operation : Operation
  /-- Where its operand is, if it has one in memory. -/
  place : Option UInt16

/-- The instruction at the program counter. -/
def nextLine (cpu : Cpu) (memory : FlatMemory) : Line :=
  ⟨(cpu.nextInstruction memory).operation, cpu.nextOperand? memory⟩

/-- The instructions of a program are executed one after the other, each with all its cycles. -/
inductive Executes : Cpu × FlatMemory → List Line → Cpu × FlatMemory → Prop where
  /-- Nothing is left to do. -/
  | done (now : Cpu × FlatMemory) : Executes now [] now
  /-- The first instruction is executed. -/
  | line {now after : Cpu × FlatMemory} {line : Line} {lines : List Line} :
    now.1.complete = true → now.1.nextLine now.2 = line →
    Executes (now.1.carryOut now.2) lines after → Executes now (line :: lines) after

/-- Where a byte of each of two numbers is, and where the byte of the result goes. -/
structure Digit where
  /-- The byte that is loaded. -/
  left : UInt16
  /-- The byte that is added or subtracted. -/
  right : UInt16
  /-- The byte that is stored. -/
  result : UInt16

/-- The result of a digit overwrites nothing of a later one. -/
structure Digit.Apart (earlier later : Digit) : Prop where
  /-- The later left byte is not overwritten. -/
  left : later.left ≠ earlier.result
  /-- The later right byte is not overwritten. -/
  right : later.right ≠ earlier.result
  /-- The later result does not overwrite the earlier one. -/
  result : earlier.result ≠ later.result

/-- The instructions for one digit. -/
def Digit.lines (operation : Operation) (digit : Digit) : List Line :=
  [⟨.lda, some digit.left⟩, ⟨operation, some digit.right⟩, ⟨.sta, some digit.result⟩]

/-- The addition of two numbers, the least significant digit first. -/
def longAddition (digits : List Digit) : List Line :=
  ⟨.clc, none⟩ :: digits.flatMap (Digit.lines .adc)

/-- The subtraction of two numbers, the least significant digit first. -/
def longSubtraction (digits : List Digit) : List Line :=
  ⟨.sec, none⟩ :: digits.flatMap (Digit.lines .sbc)

/-- The number that the digits have in memory at one of their places. -/
def FlatMemory.number (memory : FlatMemory) (place : Digit → UInt16) (digits : List Digit) : Nat :=
  numberOf (digits.map fun digit => memory.peek (place digit))

section Instructions

variable {cpu : Cpu} {memory : FlatMemory}

/-- The registers with the program counter behind the next instruction. -/
def beyond (cpu : Cpu) (memory : FlatMemory) : Registers :=
  { cpu.registers with
    pc := cpu.registers.pc + 1 + .ofNat (cpu.nextInstruction memory).mode.operandLength }

/-- Finding the operand of the next instruction changes nothing in plain memory. -/
theorem space_nextFound : (cpu.nextFound memory).space = memory :=
  FlatMemory.space_findOperand _ _ _

/-- What an instruction leaves is what its effect leaves. -/
theorem carryOut_of_performed (complete : cpu.complete = true) {effect : Effect}
    (next : (cpu.nextInstruction memory).operation.effect = effect) :
    let performed :=
      (cpu.nextFound memory).cpu.perform (cpu.nextInstruction memory).mode effect memory
    (cpu.carryOut memory).1.registers
        = performed.1.registers.mapStatus (fun status => { status with unused := true })
      ∧ (cpu.carryOut memory).2 = performed.2 := by
  have performed := carryOut_eq memory complete
  rw [performed]
  refine ⟨?_, ?_⟩
  · change (cpu.step memory).1.registers = _
    rw [registers_step memory complete, Cpu.performed, next, space_nextFound]
  · change (cpu.step memory).2 = _
    rw [space_step memory complete, Cpu.performed, next, space_nextFound]

/-- An instruction whose operand is in memory is not one without an operand. -/
theorem mode_ne_implied {place : UInt16} (operand : cpu.nextOperand? memory = some place) :
    (cpu.nextInstruction memory).mode ≠ .implied := by
  intro implied
  have none : cpu.nextOperand? memory = none := effective?_eq_none_iff.2 (.inl implied)
  cases none.symm.trans operand

/-- A load changes the registers by the byte at its place. -/
theorem carryOut_load (complete : cpu.complete = true) {update : UInt8 → Registers → Registers}
    {place : UInt16} (next : (cpu.nextInstruction memory).operation.effect = .load update)
    (operand : cpu.nextOperand? memory = some place) :
    (cpu.carryOut memory).1.registers
        = (update (memory.peek place) (cpu.beyond memory)).mapStatus
          (fun status => { status with unused := true })
      ∧ (cpu.carryOut memory).2 = memory := by
  obtain ⟨registers, space⟩ := carryOut_of_performed complete next
  have found : (cpu.nextFound memory).cpu.registers = cpu.beyond memory :=
    cpu.registers_nextFound memory
  rw [registers, space, perform, readOperand_of_memory _ (mode_ne_implied operand),
    address_nextFound _ _ operand]
  refine ⟨?_, rfl⟩
  change (update (memory.peek place) (cpu.nextFound memory).cpu.registers).mapStatus _ = _
  rw [found]

/-- A store writes a register to its place. -/
theorem carryOut_store (complete : cpu.complete = true) {source : Registers → UInt8}
    {place : UInt16} (next : (cpu.nextInstruction memory).operation.effect = .store source)
    (operand : cpu.nextOperand? memory = some place) :
    (cpu.carryOut memory).1.registers
        = (cpu.beyond memory).mapStatus (fun status => { status with unused := true })
      ∧ (cpu.carryOut memory).2 = AddressSpace.write memory place (source (cpu.beyond memory)) := by
  obtain ⟨registers, space⟩ := carryOut_of_performed complete next
  have found : (cpu.nextFound memory).cpu.registers = cpu.beyond memory :=
    cpu.registers_nextFound memory
  rw [registers, space, perform, address_nextFound _ _ operand, found]
  exact ⟨rfl, rfl⟩

/-- A change of the registers takes place behind the instruction. -/
theorem carryOut_transfer (complete : cpu.complete = true) {update : Registers → Registers}
    (next : (cpu.nextInstruction memory).operation.effect = .transfer update) :
    (cpu.carryOut memory).1.registers
        = (update (cpu.beyond memory)).mapStatus (fun status => { status with unused := true })
      ∧ (cpu.carryOut memory).2 = memory := by
  obtain ⟨registers, space⟩ := carryOut_of_performed complete next
  have found : (cpu.nextFound memory).cpu.registers = cpu.beyond memory :=
    cpu.registers_nextFound memory
  rw [registers, space, perform, found]
  exact ⟨rfl, rfl⟩

/-- An instruction with its operand in page zero, as it stands in memory. -/
theorem nextLine_zeroPage {opcode place : UInt8} {operation : Operation} {cycles : UInt8}
    (code : memory.Holds cpu.registers.pc [opcode, place])
    (decoded : Instruction.ofOpcode opcode = ⟨operation, .zeroPage, cycles⟩) :
    cpu.nextLine memory = ⟨operation, some place.toUInt16⟩
      ∧ (cpu.beyond memory).pc = cpu.registers.pc + 1 + 1 := by
  obtain ⟨first, second, -⟩ := code
  have next : cpu.nextInstruction memory = ⟨operation, .zeroPage, cycles⟩ :=
    FlatMemory.nextInstruction_of_peek first decoded
  rw [nextLine, nextOperand?, beyond, next]
  refine ⟨?_, rfl⟩
  change (⟨operation, some (memory.peek (cpu.registers.pc + 1)).toUInt16⟩ : Line) = _
  rw [second]

end Instructions

namespace Executes

variable {now after : Cpu × FlatMemory} {lines : List Line} {operation : Operation}
  {change : UInt8 → UInt8}

/-- The instructions of a digit add its bytes and the carry, and store the sum. -/
theorem digit
    (adds : operation.effect = .load fun value registers => registers.addWithCarry (change value))
    {digit : Digit} (run : Executes now (digit.lines operation ++ lines) after) :
    ∃ (registers : Registers) (next : Cpu × FlatMemory),
      registers.a = now.2.peek digit.left
        ∧ registers.status.carry = now.1.registers.status.carry
        ∧ next.1.registers.status
          = { (registers.addWithCarry (change (now.2.peek digit.right))).status with
            unused := true }
        ∧ next.2 = AddressSpace.write now.2 digit.result
          (registers.addWithCarry (change (now.2.peek digit.right))).a
        ∧ Executes next lines after := by
  obtain _ | ⟨complete, load, run⟩ := run
  obtain ⟨loaded, read⟩ := carryOut_load complete
    (congrArg (fun line : Line => line.operation.effect) load) (congrArg Line.place load)
  generalize now.1.carryOut now.2 = first at run loaded read
  obtain _ | ⟨complete, add, run⟩ := run
  obtain ⟨added, kept⟩ := carryOut_load complete
    ((congrArg (fun line : Line => line.operation.effect) add).trans adds) (congrArg Line.place add)
  have a : (first.1.beyond first.2).a = now.2.peek digit.left := by
    change first.1.registers.a = _
    rw [loaded]
    rfl
  have carry : (first.1.beyond first.2).status.carry = now.1.registers.status.carry := by
    change first.1.registers.status.carry = _
    rw [loaded]
    rfl
  generalize first.1.carryOut first.2 = second at run added kept
  obtain _ | ⟨complete, store, run⟩ := run
  obtain ⟨stored, written⟩ := carryOut_store complete
    (congrArg (fun line : Line => line.operation.effect) store) (congrArg Line.place store)
  rw [read] at added kept a carry
  refine ⟨first.1.beyond now.2, _, a, carry, ?_, ?_, run⟩
  · rw [stored]
    change { second.1.registers.status with unused := true } = _
    rw [added]
    rfl
  · rw [written, kept]
    change AddressSpace.write _ _ second.1.registers.a = _
    rw [added]
    rfl

/-- The instructions of some digits add two numbers and the carry, and store the sum. They write
nothing else. -/
theorem digits
    (adds : operation.effect = .load fun value registers => registers.addWithCarry (change value))
    {digits : List Digit} (some : digits ≠ []) (apart : digits.Pairwise Digit.Apart)
    (run : Executes now (digits.flatMap (Digit.lines operation)) after) :
    Added digits.length (now.2.number (·.left) digits)
        (numberOf (digits.map fun digit => change (now.2.peek digit.right)))
        now.1.registers.status.carry (after.2.number (·.result) digits)
        after.1.registers.status
      ∧ ∀ address, (∀ digit ∈ digits, address ≠ digit.result) →
        after.2.peek address = now.2.peek address := by
  induction digits generalizing now with
  | nil => exact absurd rfl some
  | cons digit digits others =>
    obtain ⟨registers, next, a, carry, status, written, run⟩ := run.digit adds
    have kept {address : UInt16} (other : address ≠ digit.result) :
        next.2.peek address = now.2.peek address := by
      rw [written, FlatMemory.peek_write_of_ne _ _ other]
    have stored : next.2.peek digit.result
        = (registers.addWithCarry (change (now.2.peek digit.right))).a := by
      rw [written, FlatMemory.peek_write]
    have first := Added.byte registers (change (now.2.peek digit.right))
    obtain rfl | more := eq_or_ne digits []
    · obtain _ | _ := run
      refine ⟨?_, fun address other => kept (other _ (.head _))⟩
      rw [status, ← carry]
      simp only [List.map_cons, List.map_nil, FlatMemory.number, numberOf_cons, stored, ← a]
      exact ⟨first.sum, first.carry, first.overflow, first.negative⟩
    · obtain ⟨before, apart⟩ := List.pairwise_cons.1 apart
      obtain ⟨added, frame⟩ := others more apart run
      have lefts : next.2.number (·.left) digits = now.2.number (·.left) digits := by
        apply congrArg numberOf
        apply List.map_congr_left
        intro later member
        exact kept (before later member).left
      have rights : digits.map (fun digit => change (next.2.peek digit.right))
          = digits.map fun digit => change (now.2.peek digit.right) := by
        apply List.map_congr_left
        intro later member
        rw [kept (before later member).right]
      have result : after.2.peek digit.result
          = (registers.addWithCarry (change (now.2.peek digit.right))).a := by
        rw [← stored]
        exact frame _ fun later member => (before later member).result
      rw [lefts, rights, status] at added
      have whole := added.cons (List.length_pos_iff.2 more)
      refine ⟨?_, ?_⟩
      · simp only [FlatMemory.number, List.map_cons, numberOf_cons, result, ← a, ← carry]
        exact whole
      · intro address other
        rw [frame address fun later member => other later (.tail _ member)]
        exact kept (other _ (.head _))

/-- A load from page zero that stands in memory. -/
theorem load_zeroPage {cpu : Cpu} {memory : FlatMemory} {opcode place cycles : UInt8}
    {update : UInt8 → Registers → Registers}
    (decoded : Instruction.ofOpcode opcode = ⟨operation, .zeroPage, cycles⟩)
    (loads : operation.effect = .load update)
    (counts : ∀ value registers, (update value registers).pc = registers.pc)
    (complete : cpu.complete = true)
    (code : memory.Holds cpu.registers.pc [opcode, place]) :
    ∃ next : Cpu, next.complete = true ∧ next.registers.pc = cpu.registers.pc + 1 + 1
      ∧ ∀ {lines after}, Executes (next, memory) lines after →
        Executes (cpu, memory) (⟨operation, some place.toUInt16⟩ :: lines) after := by
  obtain ⟨stands, counter⟩ := nextLine_zeroPage code decoded
  obtain ⟨registers, same⟩ := carryOut_load complete
    ((congrArg (fun line : Line => line.operation.effect) stands).trans loads)
    (congrArg Line.place stands)
  refine ⟨(cpu.carryOut memory).1, complete_carryOut memory complete, ?_, ?_⟩
  · rw [registers]
    exact (counts _ _).trans counter
  · intro lines after run
    have next : Executes ((cpu.carryOut memory).1, (cpu.carryOut memory).2) lines after := by
      rwa [same]
    exact @line (cpu, memory) after _ lines complete stands next

/-- A store to page zero that stands in memory. -/
theorem store_zeroPage {cpu : Cpu} {memory : FlatMemory} {opcode place cycles : UInt8}
    {source : Registers → UInt8}
    (decoded : Instruction.ofOpcode opcode = ⟨operation, .zeroPage, cycles⟩)
    (stores : operation.effect = .store source) (complete : cpu.complete = true)
    (code : memory.Holds cpu.registers.pc [opcode, place]) :
    ∃ next : Cpu × FlatMemory, next.1.complete = true
      ∧ next.1.registers.pc = cpu.registers.pc + 1 + 1
      ∧ (∀ address, address ≠ place.toUInt16 → next.2.peek address = memory.peek address)
      ∧ ∀ {lines after}, Executes next lines after →
        Executes (cpu, memory) (⟨operation, some place.toUInt16⟩ :: lines) after := by
  obtain ⟨stands, counter⟩ := nextLine_zeroPage code decoded
  obtain ⟨registers, written⟩ := carryOut_store complete
    ((congrArg (fun line : Line => line.operation.effect) stands).trans stores)
    (congrArg Line.place stands)
  refine ⟨cpu.carryOut memory, complete_carryOut memory complete, ?_, ?_, ?_⟩
  · rw [registers]
    exact counter
  · intro address other
    rw [written, FlatMemory.peek_write_of_ne _ _ other]
  · intro lines after run
    exact @line (cpu, memory) after _ lines complete stands run

/-- The instructions of an addition in page zero that stand in memory. -/
theorem digit_zeroPage {cpu : Cpu} {memory : FlatMemory} {left right result : UInt8}
    (complete : cpu.complete = true)
    (code : memory.Holds cpu.registers.pc [0xA5, left, 0x65, right, 0x85, result]) :
    ∃ next : Cpu × FlatMemory, next.1.complete = true
      ∧ next.1.registers.pc = cpu.registers.pc + 1 + 1 + 1 + 1 + 1 + 1
      ∧ (∀ address, address ≠ result.toUInt16 → next.2.peek address = memory.peek address)
      ∧ ∀ {lines after}, Executes next lines after →
        Executes (cpu, memory)
          (Digit.lines .adc ⟨left.toUInt16, right.toUInt16, result.toUInt16⟩ ++ lines) after := by
  obtain ⟨load, leftPlace, add, rightPlace, store, resultPlace, -⟩ := code
  have lda : Instruction.ofOpcode 0xA5 = ⟨.lda, .zeroPage, 3⟩ := by decide
  have adc : Instruction.ofOpcode 0x65 = ⟨.adc, .zeroPage, 3⟩ := by decide
  have sta : Instruction.ofOpcode 0x85 = ⟨.sta, .zeroPage, 3⟩ := by decide
  obtain ⟨second, complete, secondAt, loads⟩ :=
    load_zeroPage lda rfl (fun _ _ => rfl) complete ⟨load, leftPlace, trivial⟩
  rw [← secondAt] at add rightPlace store resultPlace ⊢
  obtain ⟨third, complete, thirdAt, adds⟩ :=
    load_zeroPage adc rfl (fun _ _ => rfl) complete ⟨add, rightPlace, trivial⟩
  rw [← thirdAt] at store resultPlace ⊢
  obtain ⟨next, complete, nextAt, same, stores⟩ :=
    store_zeroPage sta rfl complete ⟨store, resultPlace, trivial⟩
  exact ⟨next, complete, nextAt, same, fun run => loads (adds (stores run))⟩

end Executes

/-- A program that adds two numbers in memory, and one that subtracts them, leave the result in
memory and describe it in the flags, whatever the decimal flag says. -/
theorem result_of_executes {now after : Cpu × FlatMemory} {digits : List Digit} (some : digits ≠ [])
    (apart : digits.Pairwise Digit.Apart) :
    let left := now.2.number (·.left) digits
    let right := now.2.number (·.right) digits
    let result := after.2.number (·.result) digits
    (Executes now (longAddition digits) after →
        LongSum digits.length left right result after.1.registers.status)
      ∧ (Executes now (longSubtraction digits) after →
        LongDifference digits.length left right result after.1.registers.status) := by
  have positive := List.length_pos_iff.2 some
  intro left right result
  refine ⟨?addition, ?subtraction⟩
  case addition =>
    intro run
    obtain _ | ⟨complete, clear, run⟩ := run
    obtain ⟨cleared, same⟩ := carryOut_transfer complete
      (congrArg (fun line : Line => line.operation.effect) clear)
    have adds : Operation.adc.effect
        = .load fun value registers => registers.addWithCarry value := rfl
    obtain ⟨added, -⟩ := run.digits adds some apart
    rw [same, cleared] at added
    exact added.longSum positive
  case subtraction =>
    intro run
    obtain _ | ⟨complete, set, run⟩ := run
    obtain ⟨set, same⟩ := carryOut_transfer complete
      (congrArg (fun line : Line => line.operation.effect) set)
    have adds : Operation.sbc.effect
        = .load fun value registers => registers.addWithCarry (~~~value) := rfl
    obtain ⟨added, -⟩ := run.digits adds some apart
    rw [same, set] at added
    have complements := numberOf_complement (digits.map fun digit => now.2.peek digit.right)
    rw [List.map_map, List.length_map] at complements
    exact added.longDifference positive complements

/-- The sum `0x01FF + 0x7E02` has a carry between its bytes and leaves the signed numbers, with the
decimal flag set. -/
theorem result_of_executes_carried :
    let memory : FlatMemory := ⟨.ofFn fun cell =>
      match cell.val with
      | 0x0010 => 0xFF | 0x0011 => 0x01
      | 0x0020 => 0x02 | 0x0021 => 0x7E
      | 0x8000 => 0x18
      | 0x8001 => 0xA5 | 0x8002 => 0x10 | 0x8003 => 0x65 | 0x8004 => 0x20
      | 0x8005 => 0x85 | 0x8006 => 0x30
      | 0x8007 => 0xA5 | 0x8008 => 0x11 | 0x8009 => 0x65 | 0x800A => 0x21
      | 0x800B => 0x85 | 0x800C => 0x31
      | _ => 0⟩
    let cpu : Cpu := { powerOn with registers := { Registers.powerOn with
      pc := 0x8000, status := { Status.powerOn with decimal := true } } }
    let digits : List Digit := [⟨0x10, 0x20, 0x30⟩, ⟨0x11, 0x21, 0x31⟩]
    digits ≠ [] ∧ digits.Pairwise Digit.Apart
      ∧ ∃ after, Executes (cpu, memory) (longAddition digits) after
        ∧ after.2.number (·.result) digits = 0x8001
        ∧ after.1.registers.status.carry = false
        ∧ after.1.registers.status.overflow = true
        ∧ after.1.registers.status.negative = true := by
  intro memory cpu digits
  have clears : memory.peek 0x8000 = 0x18 := FlatMemory.peek_ofFn _ _
  have firstCode : memory.Holds (0x8000 + 1 + 0) [0xA5, 0x10, 0x65, 0x20, 0x85, 0x30] := by
    simp only [FlatMemory.Holds, memory, FlatMemory.peek_ofFn]
    decide
  have secondCode : memory.Holds (0x8000 + 1 + 0 + 1 + 1 + 1 + 1 + 1 + 1)
      [0xA5, 0x11, 0x65, 0x21, 0x85, 0x31] := by
    simp only [FlatMemory.Holds, memory, FlatMemory.peek_ofFn]
    decide
  have left : memory.number (·.left) digits = 0x01FF := by
    simp only [FlatMemory.number, digits, List.map, memory, FlatMemory.peek_ofFn]
    decide
  have right : memory.number (·.right) digits = 0x7E02 := by
    simp only [FlatMemory.number, digits, List.map, memory, FlatMemory.peek_ofFn]
    decide
  clear_value memory
  have apart : digits.Pairwise Digit.Apart := by
    refine .cons ?_ (List.pairwise_singleton _ _)
    intro later member
    obtain rfl := List.mem_singleton.1 member
    exact ⟨by decide, by decide, by decide⟩
  -- the carry is cleared
  have clc : cpu.nextInstruction memory = ⟨.clc, .implied, 2⟩ :=
    FlatMemory.nextInstruction_of_peek clears (by decide)
  have clear : cpu.nextLine memory = ⟨.clc, none⟩ := by
    rw [nextLine, nextOperand?, clc]
    rfl
  have clearing : (cpu.nextInstruction memory).operation.effect = .transfer
      (·.mapStatus fun status => { status with carry := false }) := by
    rw [clc]
    rfl
  obtain ⟨registers, same⟩ := carryOut_transfer rfl clearing
  have ready := complete_carryOut memory (show cpu.complete = true from rfl)
  have counter : (cpu.carryOut memory).1.registers.pc = 0x8000 + 1 + 0 := by
    rw [registers, beyond, clc]
    rfl
  have cleared {lines : List Line} {after : Cpu × FlatMemory}
      (run : Executes (cpu.carryOut memory) lines after) :
      Executes (cpu, memory) (⟨.clc, none⟩ :: lines) after :=
    @Executes.line (cpu, memory) after _ lines rfl clear run
  generalize cpu.carryOut memory = now at ready counter same cleared
  obtain ⟨now, _⟩ := now
  obtain rfl := same
  -- the first digit
  rw [← counter] at firstCode
  obtain ⟨next, ready, counted, kept, first⟩ := Executes.digit_zeroPage ready firstCode
  -- the second digit
  have code : next.2.Holds (0x8000 + 1 + 0 + 1 + 1 + 1 + 1 + 1 + 1)
      [0xA5, 0x11, 0x65, 0x21, 0x85, 0x31] := by
    obtain ⟨load, leftPlace, add, rightPlace, store, resultPlace, -⟩ := secondCode
    exact ⟨(kept _ (by decide)).trans load, (kept _ (by decide)).trans leftPlace,
      (kept _ (by decide)).trans add, (kept _ (by decide)).trans rightPlace,
      (kept _ (by decide)).trans store, (kept _ (by decide)).trans resultPlace, trivial⟩
  rw [← counter, ← counted] at code
  obtain ⟨last, -, -, -, second⟩ := Executes.digit_zeroPage ready code
  have run := cleared (first (second (.done last)))
  obtain ⟨sum, carry, overflow, negative⟩ := (result_of_executes (by decide) apart).1 run
  rw [left, right] at sum carry overflow
  rw [sum] at negative
  exact ⟨by decide, apart, last, run, sum.trans (by decide), carry.trans (by decide),
    overflow.trans (by decide), negative.trans (by decide)⟩

end Nes.Cpu
