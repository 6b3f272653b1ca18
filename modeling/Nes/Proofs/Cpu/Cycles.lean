import Nes.Cpu.Step

/-!
# Cycles of an instruction

An instruction takes the cycles of its entry in the opcode matrix, one more for an operand beyond
the page of its base, and up to two more for a branch that is taken. Over the whole matrix this
makes two cycles at least and eight at most (`Instruction.timed_ofOpcode`). The hardware sequences
take no longer, so a processor never has more than eight cycles left (`Cpu.cycles_step_le`).
-/
namespace Nes.Cpu

/-- Cycles that an effect takes at most beyond those of the instruction. -/
def Effect.extraCycles : Effect → Nat
  | .branch _ => 2
  | _ => 0

/-- Cycles that an instruction takes at most. -/
def Instruction.cyclesAtMost (instruction : Instruction) : Nat :=
  instruction.cycles.toNat + instruction.operation.effect.extraCycles
    + instruction.operation.paysForPageCross.toNat

/-- An instruction takes from two to eight cycles. -/
def Instruction.Timed (instruction : Instruction) : Prop :=
  2 ≤ instruction.cycles.toNat ∧ instruction.cyclesAtMost ≤ 8

instance (instruction : Instruction) : Decidable instruction.Timed :=
  inferInstanceAs (Decidable (_ ∧ _))

/-- What holds of every entry of the matrix holds of the instruction of every opcode. -/
theorem Instruction.holds_ofOpcode {Holds : Instruction → Prop}
    (entries : ∀ row ∈ OpcodeMatrix.rows.toList, ∀ instruction ∈ row.toList, Holds instruction)
    (opcode : UInt8) : Holds (ofOpcode opcode) := by
  have row := OpcodeMatrix.row_lt opcode
  have column : opcode.toNat % 16 < 16 := Nat.mod_lt _ (by decide)
  have inRows : OpcodeMatrix.rows[opcode.toNat / 16] ∈ OpcodeMatrix.rows.toList :=
    Vector.mem_toList_iff.2 (Vector.getElem_mem row)
  exact entries _ inRows _ (Vector.mem_toList_iff.2 (Vector.getElem_mem column))

/-- Every opcode stands for an instruction of two to eight cycles. -/
theorem Instruction.timed_ofOpcode (opcode : UInt8) : (ofOpcode opcode).Timed :=
  holds_ofOpcode (by decide) opcode

section Counting

variable {β : Type} [AddressSpace β] (cpu : Cpu) (space : β)

/-- Finding an operand takes no cycles of its own. -/
theorem cycles_findOperand (mode : AddressingMode) :
    (findOperand mode cpu space).cpu.cycles = cpu.cycles := by
  cases mode <;> rfl

/-- Reading an operand takes no cycles of its own. -/
theorem cycles_readOperand (mode : AddressingMode) :
    (readOperand mode cpu space).2.1.cycles = cpu.cycles := by
  rw [readOperand]
  split <;> rfl

/-- Replacing an operand takes no cycles of its own. -/
theorem cycles_replaceOperand (mode : AddressingMode) (value : UInt8) :
    (replaceOperand mode cpu space value).1.cycles = cpu.cycles := by
  rw [replaceOperand]
  split <;> rfl

/-- A taken branch takes one cycle or two. -/
theorem toNat_cycles_takeBranch (fits : cpu.cycles.toNat + 2 < 256) :
    cpu.cycles.toNat ≤ cpu.takeBranch.cycles.toNat
      ∧ cpu.takeBranch.cycles.toNat ≤ cpu.cycles.toNat + 2 := by
  have taken (extra : UInt8) (few : extra.toNat ≤ 2) :
      cpu.cycles.toNat ≤ (cpu.cycles + extra).toNat
        ∧ (cpu.cycles + extra).toNat ≤ cpu.cycles.toNat + 2 := by
    rw [UInt8.toNat_add]
    omega
  apply taken
  split <;> decide

/-- An effect adds no more cycles than it may. -/
theorem toNat_cycles_perform (mode : AddressingMode) (effect : Effect)
    (fits : cpu.cycles.toNat + effect.extraCycles < 256) :
    cpu.cycles.toNat ≤ (cpu.perform mode effect space).1.cycles.toNat
      ∧ (cpu.perform mode effect space).1.cycles.toNat
        ≤ cpu.cycles.toNat + effect.extraCycles := by
  have unchanged (same : (cpu.perform mode effect space).1.cycles = cpu.cycles) :
      cpu.cycles.toNat ≤ (cpu.perform mode effect space).1.cycles.toNat
        ∧ (cpu.perform mode effect space).1.cycles.toNat
          ≤ cpu.cycles.toNat + effect.extraCycles := by
    rw [same]
    omega
  cases effect
  case branch taken =>
    change cpu.cycles.toNat + 2 < 256 at fits
    simp only [perform, Effect.extraCycles]
    split
    · exact cpu.toNat_cycles_takeBranch fits
    · omega
  case load update => exact unchanged (cpu.cycles_readOperand space mode)
  case modify change =>
    apply unchanged
    simp only [perform, cycles_replaceOperand]
    exact cpu.cycles_readOperand space mode
  all_goals exact unchanged rfl

/-- The effect of an instruction leaves room for the cycle of a crossed page. -/
theorem toNat_cycles_performed {instruction : Instruction} (timed : instruction.Timed)
    (started : cpu.cycles = instruction.cycles) (mode : AddressingMode) :
    2 ≤ (cpu.perform mode instruction.operation.effect space).1.cycles.toNat
      ∧ (cpu.perform mode instruction.operation.effect space).1.cycles.toNat
        + instruction.operation.paysForPageCross.toNat ≤ 8 := by
  obtain ⟨least, most⟩ := timed
  rw [Instruction.cyclesAtMost, ← started] at most
  rw [← started] at least
  obtain ⟨above, below⟩ := cpu.toNat_cycles_perform space mode instruction.operation.effect
    (by omega)
  omega

/-- An instruction that has just been carried out has from two to eight cycles left. -/
theorem toNat_cycles_execute :
    2 ≤ (cpu.execute space).1.cycles.toNat ∧ (cpu.execute space).1.cycles.toNat ≤ 8 := by
  have timed := Instruction.timed_ofOpcode (cpu.fetchByte space).1
  rw [execute]
  generalize cpu.fetchByte space = fetched at timed ⊢
  obtain ⟨opcode, cpu, space⟩ := fetched
  dsimp only at timed ⊢
  generalize Instruction.ofOpcode opcode = instruction at timed ⊢
  have started := cycles_findOperand { cpu with opcode, cycles := instruction.cycles } space
    instruction.mode
  generalize findOperand instruction.mode { cpu with opcode, cycles := instruction.cycles } space
    = found at started ⊢
  obtain ⟨above, below⟩ := found.cpu.toNat_cycles_performed found.space timed started
    instruction.mode
  generalize found.cpu.perform instruction.mode instruction.operation.effect found.space
    = performed at above below ⊢
  obtain ⟨cpu, space⟩ := performed
  have extra : (if found.crossed && instruction.operation.paysForPageCross then 1
      else 0 : UInt8).toNat ≤ instruction.operation.paysForPageCross.toNat := by
    cases found.crossed <;> cases instruction.operation.paysForPageCross <;> decide
  change 2 ≤ (cpu.cycles + _).toNat ∧ (cpu.cycles + _).toNat ≤ 8
  rw [UInt8.toNat_add]
  dsimp only at above below
  omega

/-- No more than eight cycles are ever left. -/
theorem cycles_step_le (few : cpu.cycles.toNat ≤ 8) : (cpu.step space).1.cycles.toNat ≤ 8 := by
  have counted {cpu : Cpu} (few : cpu.cycles.toNat ≤ 8) (more : cpu.cycles.toNat ≠ 0) :
      (cpu.cycles - 1).toNat ≤ 8 := by
    have one : (1 : UInt8) ≤ cpu.cycles := UInt8.le_iff_toNat_le.2 (Nat.pos_of_ne_zero more)
    rw [UInt8.toNat_sub_of_le _ _ one]
    exact Nat.le_trans (Nat.sub_le _ _) few
  by_cases complete : cpu.complete = true
  · obtain ⟨least, most⟩ := cpu.toNat_cycles_execute space
    simp only [step, if_pos complete]
    exact counted most (by omega)
  · simp only [step, if_neg complete]
    rw [Cpu.complete, beq_iff_eq] at complete
    exact counted few fun none => complete (UInt8.toNat_inj.1 none)

/-- A reset takes eight cycles. -/
theorem cycles_reset : (cpu.reset space).1.cycles = 8 := rfl

/-- The interrupt that can not be masked takes eight cycles. -/
theorem cycles_nmi : (cpu.nmi space).1.cycles = 8 := rfl

/-- The interrupt that can be masked leaves eight cycles at most, taken or not. -/
theorem cycles_irq_le (few : cpu.cycles.toNat ≤ 8) : (cpu.irq space).1.cycles.toNat ≤ 8 := by
  rw [irq]
  split
  · exact few
  · exact (by decide : (7 : UInt8).toNat ≤ 8)

end Counting

end Nes.Cpu
