import Nes.Proofs.Cartridge.Accepted
import Nes.Proofs.Cartridge.BoardState

/-!
# Read-only memory

Program memory can be written through the board without registers alone, and character memory only
where the image has no banks of it, on any board. No action changes the number and the bank counts
of a board, so what can not be written at first never can be: it keeps the bytes of the image
(`Cartridge.kept_keepsRom`).
-/
namespace Nes

namespace Board

/-- A write reaches program memory on the board without registers only. -/
theorem target_write {board : Board} (registers : board.number ≠ 0) (address : UInt16)
    (value : UInt8) (offset : Nat) : (board.write address value).1 ≠ some (.program offset) := by
  cases board
  case nrom board => exact absurd rfl registers
  case mmc1 board =>
    change (board.write address value).1 ≠ _
    rw [Mmc1.write]
    split
    · simp
    · split <;> simp
  case mmc3 board =>
    change (board.write address value).1 ≠ _
    rw [Mmc3.write]
    split
    · simp
    · split <;> simp
  all_goals exact (Option.some_ne_none _).symm

/-- A write reaches no character memory that has banks in the image. -/
theorem characterWrite_of_banks {board : Board} (banks : board.banks.character ≠ 0)
    (address : UInt16) : board.characterWrite address = none := by
  have fixed (counts : BankCounts) (some : counts.character ≠ 0) :
      counts.writableCharacter address = none := if_neg fun both => some both.2
  cases board
  case cnrom board => rfl
  case gxrom board => rfl
  all_goals exact fixed _ banks

end Board

namespace Cartridge

/-- A write leaves program memory on every board that has registers. -/
theorem program_write {cartridge : Cartridge} (registers : cartridge.board.number ≠ 0)
    (address : UInt16) (value : UInt8) :
    (cartridge.write address value).2.program = cartridge.program := by
  have target := Board.target_write registers address value
  simp only [write]
  split
  case h_1 offset reached => exact absurd reached (target offset)
  all_goals rfl

/-- A processor write leaves character memory. -/
theorem character_write (cartridge : Cartridge) (address : UInt16) (value : UInt8) :
    (cartridge.write address value).2.character = cartridge.character := by
  simp only [write]
  split <;> rfl

/-- The picture chip writes character memory and no program memory. -/
theorem program_writeCharacter (cartridge : Cartridge) (address : UInt16) (value : UInt8) :
    (cartridge.writeCharacter address value).2.program = cartridge.program := by
  rw [writeCharacter]
  split <;> rfl

/-- What of a cartridge can not be written is as it was loaded. -/
structure KeepsRom (loaded cartridge : Cartridge) : Prop where
  /-- The board is of the same make, so the same memories can be written. -/
  make : cartridge.board.make = loaded.board.make
  /-- Program memory behind registers is as it was loaded. -/
  program : loaded.board.number ≠ 0 → cartridge.program = loaded.program
  /-- So is character memory that has banks in the image. -/
  character : loaded.board.banks.character ≠ 0 → cartridge.character = loaded.character

/-- A cartridge keeps its own memory. -/
theorem KeepsRom.refl (cartridge : Cartridge) : KeepsRom cartridge cartridge :=
  ⟨rfl, fun _ => rfl, fun _ => rfl⟩

/-- Every action leaves the memories that can not be written. -/
theorem kept_keepsRom (loaded : Cartridge) : Kept (KeepsRom loaded) := by
  intro cartridge action keeps
  have make : (cartridge.after action).board.make = loaded.board.make :=
    (congrArg Make.board (cartridge.make_after action)).trans keeps.make
  have number : cartridge.board.number = loaded.board.number :=
    congrArg BoardMake.number keeps.make
  have banks : cartridge.board.banks = loaded.board.banks := congrArg BoardMake.banks keeps.make
  refine ⟨make, fun registers => ?_, fun some => ?_⟩
  · rw [← keeps.program registers]
    rw [← number] at registers
    cases action
    case write address value => exact program_write registers address value
    case writeCharacter address value => exact cartridge.program_writeCharacter address value
    all_goals rfl
  · rw [← keeps.character some]
    rw [← banks] at some
    cases action
    case write address value => exact cartridge.character_write address value
    case writeCharacter address value =>
      change (cartridge.writeCharacter address value).2.character = cartridge.character
      rw [writeCharacter, Board.characterWrite_of_banks some]
    all_goals rfl

/-- A cartridge that an image gives, with or without a note of the image file. -/
inductive GivenBy (image : ByteArray) : Cartridge → Prop where
  /-- The cartridge of a supported board. -/
  | image {cartridge : Cartridge} (read : ofImage image = .ok cartridge) : GivenBy image cartridge
  /-- The stand-in for a board that is not supported. -/
  | standIn {number : UInt8} {cartridge : Cartridge}
    (read : ofImage image = .error (.unsupportedBoard number cartridge)) : GivenBy image cartridge
  /-- The file is noted. -/
  | noted {cartridge : Cartridge} {path : String} (given : GivenBy image cartridge)
    (short : path.toUTF8.size < UInt32.size) : GivenBy image { cartridge with path := some path }

namespace GivenBy

variable {image : ByteArray} {cartridge : Cartridge}

/-- A cartridge given by an image is an accepted one. -/
theorem accepted (given : GivenBy image cartridge) : Accepted cartridge := by
  induction given with
  | image read => exact .image read
  | standIn read => exact .standIn read
  | noted given short ih => exact .noted ih short

/-- A cartridge of an image has the memories of the image, on a board that knows its bank counts
and has the number of the image if that is supported. -/
theorem contents (given : GivenBy image cartridge) :
    let header := ImageHeader.ofMemory (headerMemory image)
    cartridge.board.banks = header.banks ∧
      (∀ board, Board.ofNumber? header.boardNumber header.banks = some board →
        cartridge.board.number = header.boardNumber) ∧
      cartridge.program
        = image.extract header.programStart (header.programStart + header.programSize) ∧
      (header.banks.character ≠ 0 → cartridge.character
        = image.extract (header.programStart + header.programSize) header.imageSize) := by
  induction given with
  | image read =>
    obtain ⟨-, board, found, rfl⟩ := assemble_of_ofImage read
    exact ⟨(freshBoard_of_ofNumber? found).banks, fun _ _ => Board.number_of_ofNumber? found, rfl,
      fun banks => if_neg banks⟩
  | standIn read =>
    obtain ⟨-, missing, rfl⟩ := assemble_of_standIn read
    refine ⟨rfl, fun board found => ?_, rfl, fun banks => if_neg banks⟩
    cases missing.symm.trans found
  | noted given short ih => exact ih

end GivenBy

end Cartridge

end Nes
