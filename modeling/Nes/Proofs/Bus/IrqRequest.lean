import Nes.Proofs.Bus.Access
import Nes.Proofs.Cpu.Simulation

/-!
# The request of the cartridge for an interrupt

The cartridge asks for an interrupt as it counts a line of the picture. The processor can not ask
in its place: a read leaves a request alone, and a write does so too, or takes the request back if
it goes to an even address from `E000` on (`Access.takesIrqBack`). So what a processor cycle makes
of a request can be read off its accesses (`Bus.irqPending_step`).
-/
namespace Nes

/-- Whether an access takes the request of the cartridge back. -/
def Cpu.Access.takesIrqBack : Cpu.Access → Bool
  | .read _ => false
  | .write address _ => decide (0xE000 ≤ address) && !wordBit address 0

/-- From `E000` on, an even address takes the request back; other registers leave it alone. -/
theorem Mmc3.irqPending_writeRegister (board : Mmc3) {address : UInt16}
    (program : inProgramSpace address = true) (value : UInt8) :
    (board.writeRegister address value).irqPending
      = (board.irqPending && !(Cpu.Access.write address value).takesIrqBack) := by
  have bound : 0x8000 ≤ address.toNat := UInt16.le_iff_toNat_le.1 (of_decide_eq_true program)
  have below := address.toNat_lt
  have high : decide (0xE000 ≤ address) = (wordBit address 14 && wordBit address 13) := by
    rw [Bool.eq_iff_iff, Bool.and_eq_true, wordBit, wordBit, Nat.testBit_eq_decide_div_mod_eq,
      Nat.testBit_eq_decide_div_mod_eq, decide_eq_true_iff, decide_eq_true_iff,
      decide_eq_true_iff, UInt16.le_iff_toNat_le]
    change 0xE000 ≤ address.toNat ↔ _
    omega
  rw [Cpu.Access.takesIrqBack, high, writeRegister]
  split <;> rename_i bit14 bit13 bit0 <;> rw [bit14, bit13, bit0]
  case h_7 => exact (Bool.and_false _).symm
  all_goals exact (Bool.and_true _).symm

/-- A write to a board takes its interrupt request back or leaves it alone. -/
theorem Board.irqPending_write (board : Board) (address : UInt16) (value : UInt8) :
    (board.write address value).2.irqPending
      = (board.irqPending && !(Cpu.Access.write address value).takesIrqBack) := by
  cases board with
  | mmc3 board =>
    change (board.write address value).2.irqPending = _
    by_cases program : inProgramSpace address = true
    · have notMemory := Bool.eq_false_iff.1 (inBoardMemory_of_program program)
      rw [Mmc3.write, if_neg notMemory, if_pos program]
      exact board.irqPending_writeRegister program value
    · have below : ¬0xE000 ≤ address :=
        fun high => program (decide_eq_true (UInt16.le_trans (by decide) high))
      have kept : (board.write address value).2.irqPending = board.irqPending := by
        rw [Mmc3.write, if_neg program]
        split <;> rfl
      rw [kept, Cpu.Access.takesIrqBack, decide_eq_false below]
      exact (Bool.and_true _).symm
  | _ => rfl

/-- No board asks after it has been told that its request was seen. -/
theorem Board.irqPending_acknowledge (board : Board) : board.acknowledge.irqPending = false := by
  cases board <;> rfl

/-- A board that has been reset requests no interrupt. -/
theorem Board.irqPending_reset (board : Board) : board.reset.irqPending = false := by
  cases board <;> rfl

/-- A write to a cartridge takes its interrupt request back or leaves it alone. -/
theorem Cartridge.irqPending_write (cartridge : Cartridge) (address : UInt16) (value : UInt8) :
    (cartridge.write address value).2.irqPending
      = (cartridge.irqPending && !(Cpu.Access.write address value).takesIrqBack) := by
  have written := cartridge.board.irqPending_write address value
  rw [write]
  generalize cartridge.board.write address value = outcome at written ⊢
  obtain ⟨target, board⟩ := outcome
  dsimp only
  split <;> exact written

/-- A write to character memory leaves the interrupt request alone. -/
theorem Cartridge.irqPending_writeCharacter (cartridge : Cartridge) (address : UInt16)
    (value : UInt8) :
    (cartridge.writeCharacter address value).2.irqPending = cartridge.irqPending := by
  rw [writeCharacter]
  split <;> rfl

namespace Bus

/-- Whether the cartridge asks for an interrupt. -/
def irqPending (bus : Bus) : Bool := bus.slot.any Cartridge.irqPending

/-- A read leaves the interrupt request of the cartridge alone. -/
theorem irqPending_read (bus : Bus) (address : UInt16) :
    (bus.read address).2.irqPending = bus.irqPending := by
  have effect := bus.readEffect_read address
  generalize (bus.read address).2 = after at effect ⊢
  cases effect <;> rfl

/-- A write to the bus takes the interrupt request of the cartridge back or leaves it alone. -/
theorem irqPending_write (bus : Bus) (address : UInt16) (value : UInt8) :
    (bus.write address value).irqPending
      = (bus.irqPending && !(Cpu.Access.write address value).takesIrqBack) := by
  have offered : (bus.offer address value).irqPending
      = (bus.irqPending && !(Cpu.Access.write address value).takesIrqBack) := by
    rcases found : bus.slot with _ | cartridge
    · simp only [offer, irqPending, found]
      rfl
    · simp only [offer, irqPending, found]
      exact cartridge.irqPending_write address value
  have effect := bus.writeEffect_write address value
  rw [← offered]
  generalize bus.write address value = after at effect ⊢
  generalize bus.offer address value = before at effect ⊢
  cases effect with
  | register address =>
    simp only [irqPending]
    rcases before.ppu.slot_writeRegister before.slot address value with same | written
    · rw [same]
    · rw [written]
      rcases before.slot with _ | cartridge
      · rfl
      · exact cartridge.irqPending_writeCharacter _ value
  | _ => rfl

/-- The accesses of a processor cycle. -/
def stepAccesses (cpu : Cpu) (bus : Bus) : List Cpu.Access :=
  (cpu.step (Cpu.Traced.start bus)).2.log

/-- A processor cycle leaves a request alone unless one of its accesses takes it back. -/
theorem irqPending_step (cpu : Cpu) (bus : Bus) :
    (cpu.step bus).2.irqPending
      = (bus.irqPending && !(stepAccesses cpu bus).any Cpu.Access.takesIrqBack) := by
  let Tells (traced : Cpu.Traced Bus) : Prop :=
    traced.space.irqPending
      = (bus.irqPending && !traced.reversedLog.any Cpu.Access.takesIrqBack)
  have tells : Cpu.Invariant Tells fun _ => True := by
    constructor
    · intro traced address told
      exact (traced.space.irqPending_read address).trans told
    · intro traced address value _ told
      change (traced.space.write address value).irqPending = _
      rw [traced.space.irqPending_write address value, told]
      change _ = (bus.irqPending && !((Cpu.Access.write address value).takesIrqBack
        || traced.reversedLog.any Cpu.Access.takesIrqBack))
      rw [Bool.not_or, Bool.and_assoc, Bool.and_comm (!_)]
  have start : Tells (Cpu.Traced.start bus) := (Bool.and_true _).symm
  have told := tells.step start (fun _ => trivial) cpu
  rw [stepAccesses, Cpu.Traced.log, List.any_reverse, ← Cpu.step_traced cpu bus]
  exact told

end Bus

end Nes
