import Nes.Proofs.Cartridge.Accepted
import Nes.Proofs.Cartridge.Slot

/-!
# Bounds on cartridges

The counters of the boards stay small, the windows of board 4 start where images can have memory,
and the memories of a cartridge are as large as its image says (`Cartridge.Bounded`). An accepted
cartridge is within these bounds, and nothing that the machine does to it leads out of them.
-/
namespace Nes

namespace Mmc1

/-- The bounds on board 1. -/
structure Bounded (board : Mmc1) : Prop where
  /-- Less than a whole number has been written. -/
  count_lt : board.count.toNat < 5
  /-- The memory on the board is 8 KiB. -/
  ram_length : board.ram.toList.length = 0x2000

/-- A reset empties the shift register of board 1. -/
theorem bounded_reset (board : Mmc1) : board.reset.Bounded :=
  ⟨show 0 < 5 by decide, board.ram.length_toList⟩

/-- The register that takes a number does not change how many bits have been written. -/
theorem bounded_writeSerial {board : Mmc1} (bounded : board.Bounded) (address : UInt16)
    (value : UInt8) : (board.writeSerial address value).Bounded := by
  rw [writeSerial]
  split
  · exact ⟨show 0 < 5 by decide, bounded.ram_length⟩
  · dsimp only
    split
    case isTrue more => exact ⟨UInt8.lt_iff_toNat_lt.1 more, bounded.ram_length⟩
    case isFalse => exact ⟨show 0 < 5 by decide, Memory.length_toList _⟩

/-- A write leaves less than a whole number in the shift register of board 1. -/
theorem bounded_write {board : Mmc1} (bounded : board.Bounded) (address : UInt16)
    (value : UInt8) : (board.write address value).2.Bounded := by
  rw [write]
  split
  · exact ⟨bounded.count_lt, Memory.length_toList _⟩
  split
  · exact bounded_writeSerial bounded address value
  · exact bounded

end Mmc1

namespace Mmc3

/-- A window starts where the largest image can have memory. -/
def InReach (window : UInt32) : Prop := window.toNat < 0x40000000

instance (window : UInt32) : Decidable (InReach window) := Nat.decLt _ _

/-- The bounds on board 4. -/
structure Bounded (board : Mmc3) : Prop where
  /-- The count of lines is that of a byte. -/
  irqCounter_le : board.irqCounter.toNat ≤ 255
  /-- So is what it starts from. -/
  irqReload_le : board.irqReload.toNat ≤ 255
  /-- The program windows are in reach. -/
  programWindows : ∀ window ∈ board.programWindows, InReach window
  /-- The character windows are in reach. -/
  characterWindows : ∀ window ∈ board.characterWindows, InReach window
  /-- The memory on the board is 8 KiB. -/
  ram_length : board.ram.toList.length = 0x2000

/-- A bank register holds a byte. -/
theorem toNat_register_lt (board : Mmc3) (index : Nat) : (board.register index).toNat < 256 := by
  have bound := (board.registers.read index).toNat_lt
  rw [register, UInt8.toNat_toUInt32]
  exact bound

/-- Leaving bits out of a bank register leaves a byte. -/
theorem toNat_register_and_lt (board : Mmc3) (index : Nat) (mask : UInt32) :
    (board.register index &&& mask).toNat < 256 := by
  have bound := board.toNat_register_lt index
  have less : (board.register index).toNat &&& mask.toNat ≤ (board.register index).toNat :=
    Nat.and_le_left
  rw [UInt32.toNat_and]
  omega

/-- There are at most 131070 program windows. -/
theorem toNat_windowsFromEnd (banks : BankCounts) (count : Nat) :
    (banks.program.toNat * 2 - count).toUInt32.toNat = banks.program.toNat * 2 - count := by
  have bound := banks.program.toNat_lt
  change (banks.program.toNat * 2 - count) % 4294967296 = _
  omega

/-- A window counted from the end of program memory is in reach. -/
theorem inReach_programFromEnd (banks : BankCounts) (count : Nat) :
    InReach (programFromEnd banks count) := by
  have bound := banks.program.toNat_lt
  rw [InReach, programFromEnd, UInt32.toNat_mul, toNat_windowsFromEnd]
  change _ * 0x2000 % 4294967296 < 0x40000000
  omega

/-- A window whose number is a byte is in reach. -/
theorem inReach_window {bank size : UInt32} (number : bank.toNat < 256)
    (small : size.toNat ≤ 0x2000) : InReach (bank * size) := by
  have product : bank.toNat * size.toNat ≤ 255 * 0x2000 :=
    Nat.mul_le_mul (Nat.le_of_lt_succ number) small
  rw [InReach, UInt32.toNat_mul]
  omega

/-- So is the window behind it. -/
theorem inReach_nextWindow {bank size : UInt32} (number : bank.toNat < 256)
    (small : size.toNat ≤ 0x2000) : InReach (bank * size + size) := by
  have product : bank.toNat * size.toNat ≤ 255 * 0x2000 :=
    Nat.mul_le_mul (Nat.le_of_lt_succ number) small
  rw [InReach, UInt32.toNat_add, UInt32.toNat_mul]
  omega

/-- A reset of board 4 brings the counter and all windows back to their start. -/
theorem bounded_reset (board : Mmc3) : board.reset.Bounded where
  irqCounter_le := Nat.zero_le _
  irqReload_le := Nat.zero_le _
  programWindows := by
    have first : InReach 0 := by decide
    have second : InReach programWindowSize := by decide
    have fixed := inReach_programFromEnd board.banks
    simp [reset, first, second, fixed]
  characterWindows := by
    intro window member
    rw [(Vector.mem_replicate.1 member).2]
    decide
  ram_length := board.ram.length_toList

/-- Windows that are set from the registers are in reach. -/
theorem bounded_mapWindows {board : Mmc3} (bounded : board.Bounded) :
    board.mapWindows.Bounded where
  irqCounter_le := bounded.irqCounter_le
  irqReload_le := bounded.irqReload_le
  programWindows := by
    have fixed := inReach_programFromEnd board.banks
    have switched (index : Nat) :
        InReach ((board.register index &&& 0x3F) * programWindowSize) :=
      inReach_window (board.toNat_register_and_lt index _) (by decide)
    rw [mapWindows]
    dsimp only
    split <;> simp [switched, fixed]
  characterWindows := by
    have single (index : Nat) : InReach (board.register index * characterWindowSize) :=
      inReach_window (board.toNat_register_lt index) (by decide)
    have even (index : Nat) :
        InReach ((board.register index &&& 0xFE) * characterWindowSize) :=
      inReach_window (board.toNat_register_and_lt index _) (by decide)
    have odd (index : Nat) :
        InReach (board.register index * characterWindowSize + characterWindowSize) :=
      inReach_nextWindow (board.toNat_register_lt index) (by decide)
    rw [mapWindows]
    dsimp only
    split <;> simp [single, even, odd]
  ram_length := bounded.ram_length

/-- A register write keeps board 4 within its bounds. -/
theorem bounded_writeRegister {board : Mmc3} (bounded : board.Bounded) (address : UInt16)
    (value : UInt8) : (board.writeRegister address value).Bounded := by
  have byte : value.toUInt16.toNat ≤ 255 := Nat.le_of_lt_succ value.toNat_lt
  have stored (registers : Memory 8) : Bounded { board with registers } :=
    ⟨bounded.irqCounter_le, bounded.irqReload_le, bounded.programWindows,
      bounded.characterWindows, bounded.ram_length⟩
  rw [writeRegister]
  split
  case h_2 => exact bounded_mapWindows (stored _)
  case h_5 =>
    exact ⟨bounded.irqCounter_le, byte, bounded.programWindows, bounded.characterWindows,
      bounded.ram_length⟩
  case h_6 =>
    exact ⟨Nat.zero_le _, bounded.irqReload_le, bounded.programWindows,
      bounded.characterWindows, bounded.ram_length⟩
  all_goals
    exact ⟨bounded.irqCounter_le, bounded.irqReload_le, bounded.programWindows,
      bounded.characterWindows, bounded.ram_length⟩

/-- Any processor write keeps board 4 within its bounds. -/
theorem bounded_write {board : Mmc3} (bounded : board.Bounded) (address : UInt16)
    (value : UInt8) : (board.write address value).2.Bounded := by
  rw [write]
  split
  · exact ⟨bounded.irqCounter_le, bounded.irqReload_le, bounded.programWindows,
      bounded.characterWindows, Memory.length_toList _⟩
  split
  · exact bounded_writeRegister bounded address value
  · exact bounded

/-- The counter goes down, or starts from the byte that it was given. -/
theorem bounded_countLine {board : Mmc3} (bounded : board.Bounded) : board.countLine.Bounded where
  irqCounter_le := by
    have counter := bounded.irqCounter_le
    have reload := bounded.irqReload_le
    rw [countLine]
    dsimp only
    split
    · exact reload
    · rename_i more
      have positive : board.irqCounter.toNat ≠ 0 := fun zero => more (UInt16.toNat_inj.1 zero)
      have one : (1 : UInt16) ≤ board.irqCounter :=
        UInt16.le_iff_toNat_le.2 (Nat.pos_of_ne_zero positive)
      rw [UInt16.toNat_sub_of_le _ _ one]
      exact (Nat.sub_le _ _).trans counter
  irqReload_le := bounded.irqReload_le
  programWindows := bounded.programWindows
  characterWindows := bounded.characterWindows
  ram_length := bounded.ram_length

end Mmc3

namespace Board

/-- The bounds on a board; boards of discrete logic have none. -/
def Bounded : Board → Prop
  | mmc1 board => board.Bounded
  | mmc3 board => board.Bounded
  | _ => True

/-- A processor write keeps every board within its bounds. -/
theorem bounded_write {board : Board} (bounded : board.Bounded) (address : UInt16)
    (value : UInt8) : (board.write address value).2.Bounded := by
  cases board
  case mmc1 board => exact Mmc1.bounded_write bounded address value
  case mmc3 board => exact Mmc3.bounded_write bounded address value
  all_goals exact trivial

/-- A reset brings every board within its bounds. -/
theorem bounded_reset (board : Board) : board.reset.Bounded := by
  cases board
  case mmc1 board => exact board.bounded_reset
  case mmc3 board => exact board.bounded_reset
  all_goals exact trivial

/-- An acknowledged request changes no counter and no window. -/
theorem bounded_acknowledge {board : Board} (bounded : board.Bounded) :
    board.acknowledge.Bounded := by
  cases board
  case mmc3 board =>
    exact ⟨bounded.irqCounter_le, bounded.irqReload_le, bounded.programWindows,
      bounded.characterWindows, bounded.ram_length⟩
  all_goals exact bounded

/-- A count of a line keeps the counter within a byte. -/
theorem bounded_countLine {board : Board} (bounded : board.Bounded) :
    board.countLine.Bounded := by
  cases board
  case mmc3 board => exact Mmc3.bounded_countLine bounded
  all_goals exact bounded

end Board

namespace Cartridge

/-- A cartridge with counters in range and memories of the right sizes. -/
structure Bounded (cartridge : Cartridge) : Prop where
  /-- The counters of the board are in range. -/
  board : cartridge.board.Bounded
  /-- Both memories are as large as the image says. -/
  filled : Filled cartridge

/-- A slot that is empty or holds a cartridge within its bounds. -/
def SlotBounded (slot : Option Cartridge) : Prop := InSlot Bounded slot

/-- An accepted cartridge is within its bounds. -/
theorem Accepted.bounded {cartridge : Cartridge} (accepted : Accepted cartridge) :
    Bounded cartridge := by
  refine ⟨?_, accepted.filled⟩
  induction accepted with
  | image read =>
    obtain ⟨header, board, rfl, -, fresh⟩ := exists_assemble_of_ofImage (.inl read)
    exact fresh.reset ▸ board.bounded_reset
  | standIn read =>
    obtain ⟨header, board, rfl, -, fresh⟩ := exists_assemble_of_ofImage (.inr ⟨_, read⟩)
    exact fresh.reset ▸ board.bounded_reset
  | noted accepted short ih => exact ih

/-- Every action keeps a cartridge within its bounds. -/
theorem kept_bounded : Kept Bounded := by
  intro cartridge action bounded
  refine ⟨?_, kept_filled cartridge action bounded.filled⟩
  cases action
  case write address value =>
    change (cartridge.write address value).2.board.Bounded
    rw [board_write]
    exact Board.bounded_write bounded.board address value
  case writeCharacter address value =>
    change (cartridge.writeCharacter address value).2.board.Bounded
    rw [board_writeCharacter]
    exact bounded.board
  case countLine => exact Board.bounded_countLine bounded.board
  case reset => exact cartridge.board.bounded_reset
  case acknowledge => exact Board.bounded_acknowledge bounded.board
  all_goals exact bounded.board

end Cartridge

end Nes
