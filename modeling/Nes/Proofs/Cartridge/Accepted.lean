import Nes.Cartridge.Image
import Nes.Proofs.Cartridge.BoardState
import Nes.Proofs.Cartridge.Use

/-!
# Accepted cartridges

A cartridge gets into the console by way of an image: on the board that the header asks for, or on
the stand-in for a board that is not supported, with or without a note of the image file. What
the header says bounds the memories of such a cartridge, and its board agrees with the image
about the bank counts.
-/
namespace Nes.Cartridge

/-- A cartridge that an image gives. The path of the file that is noted must be one whose length
fits the 32 bits that a state has for it, as those of all file systems do. -/
inductive Accepted : Cartridge → Prop where
  /-- The image of a supported cartridge. -/
  | image {image : ByteArray} {cartridge : Cartridge} (read : ofImage image = .ok cartridge) :
    Accepted cartridge
  /-- The stand-in for a board that is not supported. -/
  | standIn {image : ByteArray} {number : UInt8} {cartridge : Cartridge}
    (read : ofImage image = .error (.unsupportedBoard number cartridge)) : Accepted cartridge
  /-- An accepted cartridge with its file noted. -/
  | noted {cartridge : Cartridge} {path : String} (accepted : Accepted cartridge)
    (short : path.toUTF8.size < UInt32.size) : Accepted { cartridge with path := some path }

/-- A board fresh from an image, which knows the bank counts of the image. -/
structure FreshBoard (banks : BankCounts) (board : Board) : Prop where
  /-- The counts are those of the image. -/
  banks : board.banks = banks
  /-- The state of the board says all about its registers. -/
  storable : board.Storable
  /-- The registers have their power-on values. -/
  reset : board.reset = board

/-- The board of a number is fresh. -/
theorem freshBoard_of_ofNumber? {number : UInt8} {banks : BankCounts} {board : Board}
    (found : Board.ofNumber? number banks = some board) : FreshBoard banks board := by
  unfold Board.ofNumber? at found
  split at found
  · cases found
    exact ⟨rfl, trivial, rfl⟩
  split at found
  · cases found
    exact ⟨rfl, trivial, rfl⟩
  split at found
  · cases found
    exact ⟨rfl, trivial, rfl⟩
  split at found
  · cases found
    exact ⟨rfl, trivial, rfl⟩
  split at found
  · cases found
    exact ⟨rfl, show (0 : UInt8) &&& 0x07 = 0 from rfl, rfl⟩
  split at found
  · cases found
    exact ⟨rfl, trivial, rfl⟩
  · cases found

/-- An image of a supported board that is read holds all that its header promises, and gives the
cartridge that the header describes on the board of the number there. -/
theorem assemble_of_ofImage {image : ByteArray} {cartridge : Cartridge}
    (read : ofImage image = .ok cartridge) :
    let header := ImageHeader.ofMemory (headerMemory image)
    header.imageSize ≤ image.size ∧
      ∃ board, Board.ofNumber? header.boardNumber header.banks = some board ∧
        cartridge = assemble header image board := by
  simp only [ofImage] at read
  split at read
  · cases read
  split at read
  · cases read
  split at read
  · cases read
  case _ whole =>
    split at read
    case _ board found =>
      cases read
      exact ⟨Nat.not_lt.1 whole, board, found, rfl⟩
    case _ missing => cases read

/-- An image of a board that is not supported holds all that its header promises as well, and the
cartridge stands in on the board without registers. -/
theorem assemble_of_standIn {image : ByteArray} {number : UInt8} {cartridge : Cartridge}
    (read : ofImage image = .error (.unsupportedBoard number cartridge)) :
    let header := ImageHeader.ofMemory (headerMemory image)
    header.imageSize ≤ image.size ∧ Board.ofNumber? header.boardNumber header.banks = none ∧
      cartridge = assemble header image (.nrom (.powerOn header.banks)) := by
  simp only [ofImage] at read
  split at read
  · cases read
  split at read
  · cases read
  split at read
  · cases read
  case _ whole =>
    split at read
    case _ board found => cases read
    case _ missing =>
      cases read
      exact ⟨Nat.not_lt.1 whole, missing, rfl⟩

/-- A supported image gives a cartridge on the board of its number. -/
theorem board_of_ofImage {image : ByteArray} {cartridge : Cartridge}
    (read : ofImage image = .ok cartridge) :
    Board.ofNumber? cartridge.boardNumber cartridge.banks = some cartridge.board := by
  obtain ⟨-, board, found, rfl⟩ := assemble_of_ofImage read
  exact found

/-- An image that is read holds all that its header promises, and gives a cartridge assembled on a
fresh board. -/
theorem exists_assemble_of_ofImage {image : ByteArray} {cartridge : Cartridge}
    (read : ofImage image = .ok cartridge ∨
      ∃ number, ofImage image = .error (.unsupportedBoard number cartridge)) :
    ∃ header board, cartridge = assemble header image board ∧ header.imageSize ≤ image.size ∧
      FreshBoard header.banks board := by
  rcases read with read | ⟨number, read⟩
  · obtain ⟨whole, board, found, rfl⟩ := assemble_of_ofImage read
    exact ⟨_, board, rfl, whole, freshBoard_of_ofNumber? found⟩
  · obtain ⟨whole, -, rfl⟩ := assemble_of_standIn read
    exact ⟨_, _, rfl, whole, ⟨rfl, trivial, rfl⟩⟩

/-- An image with its mark in place that holds all that its header promises is read, if there is
a board of the number in the header. -/
theorem ofImage_eq_assemble {image : ByteArray} {board : Board}
    (headed : imageHeaderSize ≤ image.size)
    (marked : (headerMemory image).toList.take 4 = imageMark)
    (whole : (ImageHeader.ofMemory (headerMemory image)).imageSize ≤ image.size)
    (found : Board.ofNumber? (ImageHeader.ofMemory (headerMemory image)).boardNumber
      (ImageHeader.ofMemory (headerMemory image)).banks = some board) :
    ofImage image = .ok (assemble (ImageHeader.ofMemory (headerMemory image)) image board) := by
  simp only [ofImage, if_neg (Nat.not_lt.2 headed), if_neg (not_not_intro marked),
    if_neg (Nat.not_lt.2 whole), found]

/-- The least image of a board: a header alone, which asks for no bank of either memory. -/
def bareImage (boardNumber : UInt8) : ByteArray :=
  ⟨#[0x4E, 0x45, 0x53, 0x1A, 0, 0, boardNumber <<< 4, boardNumber &&& 0xF0, 0, 0, 0, 0, 0, 0, 0,
    0]⟩

/-- The cartridge of the least image of board 4. -/
def bareMmc3 : Cartridge :=
  assemble (ImageHeader.ofMemory (headerMemory (bareImage 4))) (bareImage 4)
    (.mmc3 (.powerOn ⟨0, 0⟩))

/-- The smallest board of kind 4 is one that images can have. -/
theorem accepted_bareMmc3 : Accepted bareMmc3 :=
  .image (ofImage_eq_assemble (by decide) (by decide) (by decide) rfl)

/-- What an accepted cartridge is made of. -/
structure WellMade (cartridge : Cartridge) : Prop where
  /-- The board knows the bank counts of the image. -/
  boardBanks : cartridge.board.banks = cartridge.banks
  /-- Program memory is within what a header can ask for. -/
  program_le : cartridge.program.size ≤ cartridge.banks.program.toNat * programBankSize
  /-- Character memory is within what a header can ask for. -/
  character_le : cartridge.character.size ≤
    (cartridge.banks.character.toNat + 1) * characterBankSize
  /-- Writable character memory is one bank. -/
  character_eq : cartridge.characterIsRam = true → cartridge.character.size = characterBankSize
  /-- The length of the noted path fits 32 bits. -/
  path_lt : (cartridge.path.getD "").toUTF8.size < UInt32.size

/-- A cartridge assembled on a fresh board is well made. -/
theorem wellMade_assemble {header : ImageHeader} {board : Board} (image : ByteArray)
    (fresh : FreshBoard header.banks board) : WellMade (assemble header image board) where
  boardBanks := fresh.banks
  program_le := by
    change (image.extract _ _).size ≤ header.programSize
    rw [ByteArray.size_extract]
    omega
  character_le := by
    change (if _ then _ else _ : ByteArray).size ≤ _
    split
    · change (List.replicate characterBankSize (0 : UInt8)).toArray.size ≤ _
      rw [List.size_toArray, List.length_replicate]
      exact Nat.le_mul_of_pos_left _ (Nat.succ_pos _)
    · rw [ByteArray.size_extract, Nat.add_mul]
      change _ ≤ header.characterSize + _
      omega
  character_eq := by
    intro ram
    have none : header.banks.character = 0 := eq_of_beq ram
    simp only [assemble, none, if_true]
    change (List.replicate characterBankSize (0 : UInt8)).toArray.size = _
    rw [List.size_toArray, List.length_replicate]
  path_lt := show "".toUTF8.size < UInt32.size by decide

namespace Accepted

variable {cartridge : Cartridge}

/-- An accepted cartridge is well made. -/
theorem wellMade (accepted : Accepted cartridge) : WellMade cartridge := by
  induction accepted with
  | image read =>
    obtain ⟨header, board, rfl, -, fresh⟩ := exists_assemble_of_ofImage (.inl read)
    exact wellMade_assemble _ fresh
  | standIn read =>
    obtain ⟨header, board, rfl, -, fresh⟩ := exists_assemble_of_ofImage (.inr ⟨_, read⟩)
    exact wellMade_assemble _ fresh
  | noted accepted short ih =>
    exact ⟨ih.boardBanks, ih.program_le, ih.character_le, ih.character_eq, short⟩

/-- The state of an accepted board says all about its registers. -/
theorem boardStorable (accepted : Accepted cartridge) : cartridge.board.Storable := by
  induction accepted with
  | image read =>
    obtain ⟨header, board, rfl, -, fresh⟩ := exists_assemble_of_ofImage (.inl read)
    exact fresh.storable
  | standIn read =>
    obtain ⟨header, board, rfl, -, fresh⟩ := exists_assemble_of_ofImage (.inr ⟨_, read⟩)
    exact fresh.storable
  | noted accepted short ih => exact ih

end Accepted

/-- Every action keeps a cartridge well made. -/
theorem kept_wellMade : Kept WellMade := by
  intro cartridge action wellMade
  have same := cartridge.make_after action
  have board : (cartridge.after action).board.banks = cartridge.board.banks :=
    congrArg (fun make => make.board.banks) same
  have program : (cartridge.after action).program.size = cartridge.program.size :=
    congrArg Make.programSize same
  have character : (cartridge.after action).character.size = cartridge.character.size :=
    congrArg Make.characterSize same
  have banks : (cartridge.after action).banks = cartridge.banks := congrArg Make.banks same
  have path : (cartridge.after action).path = cartridge.path := congrArg Make.path same
  have ram : (cartridge.after action).characterIsRam = cartridge.characterIsRam := by
    rw [characterIsRam, banks, characterIsRam]
  constructor
  · rw [board, banks, wellMade.boardBanks]
  · rw [program, banks]
    exact wellMade.program_le
  · rw [character, banks]
    exact wellMade.character_le
  · rw [ram, character]
    exact wellMade.character_eq
  · rw [path]
    exact wellMade.path_lt

/-- Both memories are as large as the bank counts of the image say. -/
structure Filled (cartridge : Cartridge) : Prop where
  /-- Program memory is all of its banks. -/
  program_size : cartridge.program.size = programBankSize * cartridge.banks.program.toNat
  /-- Character memory is all of its banks, or one bank that can be written. -/
  character_size : cartridge.character.size
    = characterBankSize * max 1 cartridge.banks.character.toNat

/-- A cartridge assembled from an image that holds all that its header promises is filled. -/
theorem filled_assemble {header : ImageHeader} {image : ByteArray} (board : Board)
    (whole : header.imageSize ≤ image.size) : Filled (assemble header image board) where
  program_size := by
    change (image.extract _ _).size = _ * header.banks.program.toNat
    rw [ImageHeader.imageSize, ImageHeader.programSize] at whole
    rw [ByteArray.size_extract, ImageHeader.programSize, Nat.mul_comm programBankSize]
    omega
  character_size := by
    change (if _ then _ else _ : ByteArray).size = _ * max 1 header.banks.character.toNat
    by_cases none : header.banks.character = 0
    · rw [if_pos none, none]
      change (List.replicate characterBankSize (0 : UInt8)).toArray.size = _
      rw [List.size_toArray, List.length_replicate]
      rfl
    · have some : 1 ≤ header.banks.character.toNat :=
        Nat.pos_of_ne_zero fun zero => none (UInt16.toNat_inj.1 zero)
      rw [ImageHeader.imageSize, ImageHeader.characterSize] at whole
      rw [if_neg none, ByteArray.size_extract, Nat.max_eq_right some, ImageHeader.characterSize,
        Nat.mul_comm characterBankSize]
      omega

/-- An accepted cartridge is filled. -/
theorem Accepted.filled {cartridge : Cartridge} (accepted : Accepted cartridge) :
    Filled cartridge := by
  induction accepted with
  | image read =>
    obtain ⟨header, board, rfl, whole, -⟩ := exists_assemble_of_ofImage (.inl read)
    exact filled_assemble board whole
  | standIn read =>
    obtain ⟨header, board, rfl, whole, -⟩ := exists_assemble_of_ofImage (.inr ⟨_, read⟩)
    exact filled_assemble board whole
  | noted accepted short ih => exact ⟨ih.program_size, ih.character_size⟩

/-- Every action keeps a cartridge filled. -/
theorem kept_filled : Kept Filled := by
  intro cartridge action filled
  have same := cartridge.make_after action
  have program : (cartridge.after action).program.size = cartridge.program.size :=
    congrArg Make.programSize same
  have character : (cartridge.after action).character.size = cartridge.character.size :=
    congrArg Make.characterSize same
  have banks : (cartridge.after action).banks = cartridge.banks := congrArg Make.banks same
  constructor
  · rw [program, banks]
    exact filled.program_size
  · rw [character, banks]
    exact filled.character_size

end Nes.Cartridge
