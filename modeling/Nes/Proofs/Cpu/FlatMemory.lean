import Nes.Proofs.Cpu.Execution
import Nes.Proofs.Cpu.Simulation

/-!
# A processor on plain memory

Plain memory is left as it is by reads, so that an operand is found without a change to it
(`space_findOperand`), and a cell holds what it held unless a write to its own address is among the
accesses of a cycle (`peek_step`).
-/
namespace Nes.Cpu

namespace FlatMemory

/-- The byte that a read of an address gives. -/
def peek (memory : FlatMemory) (address : UInt16) : UInt8 := memory.cells.read address.toNat

/-- Some bytes are in memory, one behind the other from an address on. -/
def Holds (memory : FlatMemory) (address : UInt16) : List UInt8 → Prop
  | [] => True
  | byte :: bytes => memory.peek address = byte ∧ memory.Holds (address + 1) bytes

variable (memory : FlatMemory)

/-- A read of plain memory gives the byte that stands there and changes nothing. -/
theorem read_eq (address : UInt16) :
    AddressSpace.read memory address = (memory.peek address, memory) := rfl

/-- A byte that is written stands there afterwards. -/
theorem peek_write (address : UInt16) (value : UInt8) :
    (AddressSpace.write memory address value).peek address = value :=
  Memory.read_write_of_same_cell _ _ rfl

/-- A write leaves all other addresses alone. -/
theorem peek_write_of_ne {written address : UInt16} (value : UInt8) (other : address ≠ written) :
    (AddressSpace.write memory written value).peek address = memory.peek address := by
  apply Memory.read_write_of_other_cell
  rw [Nat.mod_eq_of_lt written.toNat_lt, Nat.mod_eq_of_lt address.toNat_lt, Ne, UInt16.toNat_inj]
  exact Ne.symm other

/-- A memory made from a rule for its cells is read by that rule. -/
theorem peek_ofFn (cell : Fin 0x10000 → UInt8) (address : UInt16) :
    peek ⟨.ofFn cell⟩ address = cell ⟨address.toNat, address.toNat_lt⟩ :=
  Memory.read_ofFn cell address.toNat_lt

/-- Finding an operand changes nothing in plain memory. -/
theorem space_findOperand (mode : AddressingMode) (cpu : Cpu) :
    (findOperand mode cpu memory).space = memory := by
  cases mode <;> rfl

/-- The byte at the program counter tells the next instruction. -/
theorem nextInstruction_of_peek {memory : FlatMemory} {cpu : Cpu} {opcode : UInt8}
    {instruction : Instruction} (code : memory.peek cpu.registers.pc = opcode)
    (decoded : Instruction.ofOpcode opcode = instruction) :
    cpu.nextInstruction memory = instruction := by
  rw [nextInstruction, read_eq, code, decoded]

/-- A cell that a cycle does not write keeps its byte. -/
theorem peek_step (cpu : Cpu) {address : UInt16}
    (unwritten : ∀ value, .write address value ∉ (cpu.step (Traced.start memory)).2.log) :
    (cpu.step memory).2.peek address = memory.peek address := by
  let Tells (traced : Traced FlatMemory) : Prop :=
    (∀ value, .write address value ∉ traced.reversedLog) →
      traced.space.peek address = memory.peek address
  have tells : Invariant Tells fun _ => True := by
    constructor
    case read =>
      intro traced read kept unwritten
      exact kept fun value member => unwritten value (.tail _ member)
    case write =>
      intro traced written value _ kept unwritten
      have other : address ≠ written := by
        rintro rfl
        exact unwritten value (.head _)
      change (AddressSpace.write traced.space written value).peek address = _
      rw [peek_write_of_ne _ _ other]
      exact kept fun value member => unwritten value (.tail _ member)
  have start : Tells (Traced.start memory) := fun _ => rfl
  have stepped := tells.step start (fun _ => trivial) cpu
  rw [← step_traced cpu memory]
  apply stepped
  intro value member
  exact unwritten value (List.mem_reverse.2 member)

end FlatMemory

end Nes.Cpu
