import Nes.Cartridge.Stored
import Nes.Proofs.Cartridge.Accepted

/-!
# Stored cartridges

A cartridge is read back from its bytes into any other one, whatever board that has
(`Cartridge.decode_encode`). The state leaves out what is written on the label (the board number
and the revision of the image), and an empty path comes back as none. No write to a cartridge
depends on its label (`Cartridge.write_withLabel`), and neither do its bytes.
-/
namespace Nes

open SaveState SaveState.Codec

/-- A register number that is cut to the eight is cut for good. -/
theorem Mmc3.target_cut (number : UInt8) : (number &&& 0x07) &&& 0x07 = number &&& 0x07 := by
  rw [UInt8.and_assoc]
  rfl

/-- A write keeps the register number of board 4 among the eight. -/
theorem Mmc3.targetInRange_write {board : Mmc3} (inRange : board.TargetInRange)
    (address : UInt16) (value : UInt8) : (board.write address value).2.TargetInRange := by
  rw [write]
  split
  · exact inRange
  · split
    · rw [writeRegister]
      split
      · exact target_cut value
      all_goals exact inRange
    · exact inRange

namespace Board

/-- A write to a board leaves registers that a state can hold. -/
theorem storable_write {board : Board} (storable : board.Storable) (address : UInt16)
    (value : UInt8) : (board.write address value).2.Storable := by
  cases board
  case mmc3 board => exact Mmc3.targetInRange_write storable address value
  all_goals exact trivial

/-- A reset leaves registers that a state can hold. -/
theorem storable_reset (board : Board) : board.reset.Storable := by
  cases board
  case mmc3 board => exact show (0 : UInt8) &&& 0x07 = 0 from rfl
  all_goals exact trivial

/-- An acknowledged request leaves registers that a state can hold. -/
theorem storable_acknowledge {board : Board} (storable : board.Storable) :
    board.acknowledge.Storable := by
  cases board <;> exact storable

/-- A count of a line leaves registers that a state can hold. -/
theorem storable_countLine {board : Board} (storable : board.Storable) :
    board.countLine.Storable := by
  cases board <;> exact storable

end Board

namespace Cartridge

/-- What is said of a cartridge and changes nothing that it does. -/
structure Label where
  /-- The board number of the image. -/
  boardNumber : UInt8
  /-- The revision of the image. -/
  revision : ImageRevision
  /-- The file that the image was read from. -/
  path : Option String
deriving DecidableEq

/-- The path of a label as a state holds it. -/
def Label.storedPath (label : Label) : List UInt8 := (label.path.getD "").toUTF8.data.toList

/-- The label of a cartridge. -/
def label (cartridge : Cartridge) : Label where
  boardNumber := cartridge.boardNumber
  revision := cartridge.revision
  path := cartridge.path

/-- The cartridge under another label. -/
def withLabel (cartridge : Cartridge) (label : Label) : Cartridge :=
  { cartridge with
    boardNumber := label.boardNumber
    revision := label.revision
    path := label.path }

section Labels

variable (cartridge : Cartridge) (label : Label)

/-- A processor write keeps the label and does not depend on it. -/
theorem write_withLabel (address : UInt16) (value : UInt8) :
    (cartridge.withLabel label).write address value
      = ((cartridge.write address value).1, (cartridge.write address value).2.withLabel label) := by
  simp only [write, withLabel]
  rcases cartridge.board.write address value with ⟨_ | _ | _, board⟩ <;> rfl

/-- A write by the picture chip keeps the label and does not depend on it. -/
theorem writeCharacter_withLabel (address : UInt16) (value : UInt8) :
    (cartridge.withLabel label).writeCharacter address value
      = ((cartridge.writeCharacter address value).1,
        (cartridge.writeCharacter address value).2.withLabel label) := by
  simp only [writeCharacter, withLabel]
  rcases cartridge.board.characterWrite address with _ | offset <;> rfl

/-- Labels with one stored path are stored alike. -/
theorem encode_withLabel {label : Label} (same : label.storedPath = cartridge.label.storedPath) :
    (cartridge.withLabel label).encode = cartridge.encode := by
  have head : (cartridge.withLabel label).storedHead = cartridge.storedHead := by
    change StoredHead.mk label.storedPath _ _ _ _ _ = _
    rw [same]
    rfl
  rw [encode, head]
  rfl

end Labels

/-- A cartridge whose state says all about it but its label. -/
structure Storable (cartridge : Cartridge) : Prop where
  /-- The state of the board says all about its registers. -/
  board : cartridge.board.Storable
  /-- The length of the path fits 32 bits. -/
  path_lt : (cartridge.path.getD "").toUTF8.size < UInt32.size
  /-- The size of program memory fits 32 bits. -/
  program_lt : cartridge.program.size < UInt32.size
  /-- The size of character memory fits 32 bits. -/
  character_lt : cartridge.character.size < UInt32.size

/-- An accepted cartridge can be stored. -/
theorem Accepted.storable {cartridge : Cartridge} (accepted : Accepted cartridge) :
    cartridge.Storable := by
  have wellMade := accepted.wellMade
  have programBanks := cartridge.banks.program.toNat_lt
  have characterBanks := cartridge.banks.character.toNat_lt
  have program := wellMade.program_le
  have character := wellMade.character_le
  simp only [programBankSize] at program
  simp only [characterBankSize] at character
  refine ⟨accepted.boardStorable, wellMade.path_lt, ?_, ?_⟩
  · simp only [UInt32.size]
    omega
  · simp only [UInt32.size]
    omega

/-- Every action keeps a board whose state says all about its registers. -/
theorem kept_boardStorable : Kept fun cartridge => cartridge.board.Storable := by
  intro cartridge action storable
  cases action
  case write address value =>
    have board := Board.storable_write storable address value
    simp only [after, write]
    rcases written : cartridge.board.write address value with ⟨target, after⟩
    rw [written] at board
    rcases target with _ | _ | _ <;> exact board
  case writeCharacter address value =>
    simp only [after, writeCharacter]
    rcases cartridge.board.characterWrite address with _ | _ <;> exact storable
  case reset => exact Board.storable_reset cartridge.board
  case acknowledge => exact Board.storable_acknowledge storable
  case countLine => exact Board.storable_countLine storable
  all_goals exact storable

/-- Every action keeps a cartridge one that can be stored. -/
theorem kept_storable : Kept Storable := by
  intro cartridge action storable
  have same := cartridge.make_after action
  have path : (cartridge.after action).path = cartridge.path := congrArg Make.path same
  have program : (cartridge.after action).program.size = cartridge.program.size :=
    congrArg Make.programSize same
  have character : (cartridge.after action).character.size = cartridge.character.size :=
    congrArg Make.characterSize same
  exact ⟨kept_boardStorable cartridge action storable.board, path ▸ storable.path_lt,
    program ▸ storable.program_lt, character ▸ storable.character_lt⟩

/-- The path that a state gives back. -/
def restoredPath (path : Option String) : Option String :=
  let stored := (path.getD "").toUTF8.data.toList
  if stored.isEmpty then none else some (Utf8.decodeLossy stored)

/-- The text of a string's bytes is the string. -/
theorem decodeLossy_toUTF8 (text : String) : Utf8.decodeLossy text.toUTF8.data.toList = text := by
  have found : String.fromUTF8? text.toUTF8 = some text := by
    simp only [String.fromUTF8?, String.toUTF8_eq_toByteArray]
    exact dif_pos text.isValidUTF8
  change (String.fromUTF8? ⟨text.toUTF8.data.toList.toArray⟩).getD _ = text
  rw [Array.toArray_toList, found]
  rfl

/-- The path comes back as it was, except that an empty one is lost. -/
theorem restoredPath_eq (path : Option String) :
    restoredPath path = if (path.getD "").toUTF8.data.toList.isEmpty then none else path := by
  rw [restoredPath, decodeLossy_toUTF8]
  cases path
  case none => rfl
  case some text => rfl

/-- The label of a cartridge that is read back in place of another one. -/
def restoredLabel (source target : Cartridge) : Label where
  boardNumber := source.board.number
  revision := target.revision
  path := restoredPath source.path

/-- The path that is given back is stored as the path was. -/
theorem storedPath_restoredLabel (source target : Cartridge) :
    (restoredLabel source target).storedPath = source.label.storedPath := by
  simp only [restoredLabel, Label.storedPath, label, restoredPath_eq]
  split
  case isTrue empty => exact (List.isEmpty_iff.1 empty).symm
  case isFalse => rfl

/-- Every field of a stored head is read back. -/
theorem storedHead_lawfulAt {cartridge : Cartridge} (storable : cartridge.Storable) :
    StoredHead.layout.LawfulAt cartridge.storedHead := by
  simp only [StoredHead.layout, Layout.lawfulAt_cons, Layout.lawfulAt_nil]
  exact ⟨counted_lawfulAt _ storable.path_lt, Mirroring.codec_lawfulAt _, byte_lawfulAt _,
    BankCounts.codec_lawfulAt _, countedArray_lawfulAt _ storable.program_lt,
    countedArray_lawfulAt _ storable.character_lt, trivial⟩

/-- A head is its stored fields. -/
theorem StoredHead.layout_copy (source target : StoredHead) :
    StoredHead.layout.copy source target = source := by
  simp only [StoredHead.layout, Layout.copy_cons, Layout.copy_nil, StoredField.copy]

/-- A head always announces a board of the stored kind. -/
theorem exists_boardFor? (source target : Cartridge) :
    ∃ board, boardFor? target.board source.storedHead = some board ∧
      board.number = source.board.number := by
  by_cases same : target.board.number = source.board.number
  · exact ⟨target.board, if_pos same, same⟩
  · obtain ⟨fresh, found, number⟩ := source.board.exists_ofNumber? source.banks
    exact ⟨fresh, (if_neg same).trans found, number⟩

/-- A stored cartridge is read back in place of any other one, under the label that is left. -/
theorem decode_encode {source : Cartridge} (storable : source.Storable) (target : Cartridge)
    (suffix : List UInt8) :
    target.decode (source.encode ++ suffix)
      = (.ok (source.withLabel (restoredLabel source target)), suffix) := by
  obtain ⟨board, announced, number⟩ := exists_boardFor? source target
  have head := Layout.decode_encode (storedHead_lawfulAt storable) StoredHead.blank
    (source.board.encode ++ suffix)
  have tail := Board.decode_encode storable.board number suffix
  rw [StoredHead.layout_copy] at head
  rw [decode, encode, List.append_assoc, head, Outcome.andThen_ok]
  simp only [announced, tail, Outcome.map_ok]
  rfl

end Cartridge

end Nes
