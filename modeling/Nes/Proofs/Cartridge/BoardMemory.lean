import Nes.Proofs.Cartridge.Accepted
import Nes.Proofs.Cartridge.BoardReset

/-!
# Memory on a board

Boards 1 and 4 have a memory of their own at `6000`, behind which each address has a cell to
itself. Only writes there change it (`Board.ram_write`): writes to the registers, which a board
sees but does not claim, resets and lines of the picture all leave it, and it starts out as zeros
(`Cartridge.ram_of_accepted`). No board answers reads below it.
-/
namespace Nes

/-- A write to the serial register leaves the memory. -/
theorem Mmc1.ram_writeSerial (board : Mmc1) (address : UInt16) (value : UInt8) :
    (board.writeSerial address value).ram = board.ram := by
  have committed (value : UInt8) : (board.commit address value).ram = board.ram := by
    rw [commit]
    split
    · rfl
    · split <;> rfl
    · split <;> rfl
    · rw [setProgram]
      split <;> rfl
  rw [writeSerial]
  split
  · rfl
  · dsimp only
    split
    · rfl
    · exact committed _

/-- A write to a register leaves the memory. -/
theorem Mmc3.ram_writeRegister (board : Mmc3) (address : UInt16) (value : UInt8) :
    (board.writeRegister address value).ram = board.ram := by
  rw [writeRegister]
  split <;> rfl

/-- Addresses of board memory reach one cell only if they are the same. -/
theorem boardMemory_cell_iff {left right : UInt16} (leftHere : inBoardMemory left = true)
    (rightHere : inBoardMemory right = true) :
    left.toNat % 0x2000 = right.toNat % 0x2000 ↔ left = right := by
  have range {address : UInt16} (here : inBoardMemory address = true) :
      0x6000 ≤ address.toNat ∧ address.toNat < 0x8000 := by
    rw [inBoardMemory, Bool.and_eq_true, decide_eq_true_eq, decide_eq_true_eq] at here
    exact ⟨UInt16.le_iff_toNat_le.1 here.1, UInt16.lt_iff_toNat_lt.1 here.2⟩
  have leftRange := range leftHere
  have rightRange := range rightHere
  rw [← UInt16.toNat_inj]
  omega

namespace Board

/-- The board has memory of its own. -/
def HasRam (board : Board) : Prop := board.number = 1 ∨ board.number = 4

/-- Two boards have memory of their own. -/
theorem HasRam.eq_mmc1_or_mmc3 {board : Board} (memory : board.HasRam) :
    (∃ inner, board = mmc1 inner) ∨ ∃ inner, board = mmc3 inner := by
  cases board
  case mmc1 board => exact .inl ⟨board, rfl⟩
  case mmc3 board => exact .inr ⟨board, rfl⟩
  all_goals
    rcases memory with one | four
    · cases one
    · cases four

/-- Only a write to the memory of a board changes it. -/
theorem ram_write {board : Board} (memory : board.HasRam) (address : UInt16) (value : UInt8) :
    (board.write address value).2.ram
      = if inBoardMemory address then board.ram.write address.toNat value else board.ram := by
  obtain ⟨board, rfl⟩ | ⟨board, rfl⟩ := memory.eq_mmc1_or_mmc3
  · change (board.write address value).2.ram = if _ then board.ram.write _ value else board.ram
    rw [Mmc1.write]
    split
    · rfl
    · split
      · exact board.ram_writeSerial address value
      · rfl
  · change (board.write address value).2.ram = if _ then board.ram.write _ value else board.ram
    rw [Mmc3.write]
    split
    · rfl
    · split
      · exact board.ram_writeRegister address value
      · rfl

/-- A reset keeps the memory on the board. -/
theorem ram_reset (board : Board) : board.reset.ram = board.ram := by
  cases board <;> rfl

/-- A count of a line keeps the memory on the board. -/
theorem ram_countLine (board : Board) : board.countLine.ram = board.ram := by
  cases board <;> rfl

/-- A board answers reads of its memory from there. -/
theorem readTarget_of_boardMemory {board : Board} (memory : board.HasRam) {address : UInt16}
    (here : inBoardMemory address = true) :
    board.readTarget address = some (.value (board.ram.read address.toNat)) := by
  obtain ⟨board, rfl⟩ | ⟨board, rfl⟩ := memory.eq_mmc1_or_mmc3
  · exact if_pos here
  · exact if_pos here

/-- A fresh board has zeros in its memory. -/
theorem ram_of_ofNumber? {number : UInt8} {banks : BankCounts} {board : Board}
    (made : ofNumber? number banks = some board) : board.ram = Memory.zeros _ := by
  unfold ofNumber? at made
  repeat' split at made
  all_goals cases made
  all_goals rfl

end Board

namespace Cartridge

/-- The board of an accepted cartridge has zeros in its memory. -/
theorem ram_of_accepted {cartridge : Cartridge} (accepted : Accepted cartridge) :
    cartridge.board.ram = Memory.zeros _ := by
  induction accepted with
  | image read => exact Board.ram_of_ofNumber? (board_of_ofImage read)
  | standIn read =>
    obtain ⟨-, -, rfl⟩ := assemble_of_standIn read
    rfl
  | noted accepted short ih => exact ih

end Cartridge

end Nes
