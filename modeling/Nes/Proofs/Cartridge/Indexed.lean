import Nes.Ppu.CartridgeSide
import Nes.Proofs.Arithmetic.Checked
import Nes.Proofs.Cartridge.Restored
import Nes.Proofs.Memory.Indexed

/-!
# Indexes into a cartridge

Two boards have arrays of their own: memory, and the registers and windows of board 4. The indexes
of all but one are cut out of addresses. The remaining one is stored, the number of the register
that a bank number goes to, and it is why these accesses ask for a board whose registers a state
can hold. Offsets into program and character memory may be any number at all, since the cartridge
lets them come round.

An index that is written down as a number is no concern here: the registers of board 4 are read by
such indexes when the windows are worked out.
-/
namespace Nes

/-- The index of the cell of board memory that an address reaches. -/
def boardIndex (address : UInt16) : Nat := (address &&& 0x1FFF).toNat

section BoardMemory

variable (ram : Memory 0x2000) (address : UInt16)

/-- It is one of the cells, and a place in a window of program memory, which is as long. -/
theorem boardIndex_eq : boardIndex address = address.toNat % 0x2000 :=
  toNat_and_low address (show (0x1FFF : UInt16).toNat = 2 ^ 13 - 1 from rfl)

/-- The index of an address is in board memory, where a read finds the byte. -/
theorem get?_boardIndex : ram.get? (boardIndex address) = some (ram.read address.toNat) := by
  rw [boardIndex_eq]
  exact ram.get?_mod address.toNat

/-- A write finds the same index. -/
theorem set?_boardIndex (value : UInt8) :
    ram.set? (boardIndex address) value = some (ram.write address.toNat value) := by
  rw [boardIndex_eq]
  exact ram.set?_mod address.toNat value

end BoardMemory

namespace Mmc1

/-- What a processor read reaches. -/
def indexedReadTarget (board : Mmc1) (address : UInt16) : Option (Option ReadTarget) :=
  if inBoardMemory address then do
    let byte ← board.ram.get? (boardIndex address)
    return some (.value byte)
  else some (board.readTarget address)

/-- What a processor write reaches, and its effect on the registers. -/
def indexedWrite (board : Mmc1) (address : UInt16) (value : UInt8) :
    Option (Option WriteTarget × Mmc1) :=
  if inBoardMemory address then do
    let ram ← board.ram.set? (boardIndex address) value
    return (some .absorbed, { board with ram })
  else some (board.write address value)

variable (board : Mmc1) (address : UInt16)

/-- A read of board 1 asks its memory for indexes that it has. -/
theorem indexedReadTarget_eq :
    board.indexedReadTarget address = some (board.readTarget address) := by
  rw [indexedReadTarget, get?_boardIndex]
  split
  case isTrue own => rw [readTarget, if_pos own]; rfl
  case isFalse => rfl

/-- A write to board 1 sets cells that its memory has. -/
theorem indexedWrite_eq (value : UInt8) :
    board.indexedWrite address value = some (board.write address value) := by
  rw [indexedWrite, set?_boardIndex]
  split
  case isTrue own => rw [write, if_pos own]; rfl
  case isFalse => rfl

end Mmc1

namespace Mmc3

/-- What a processor read reaches. -/
def indexedReadTarget (board : Mmc3) (address : UInt16) : Option (Option ReadTarget) :=
  if inBoardMemory address then do
    let byte ← board.ram.get? (boardIndex address)
    return some (.value byte)
  else if inProgramSpace address then do
    let window ← board.programWindows[((address - 0x8000) >>> 13).toNat]?
    return some (.program (window.toNat + boardIndex address))
  else some none

/-- A write to a register. -/
def indexedWriteRegister (board : Mmc3) (address : UInt16) (value : UInt8) : Option Mmc3 :=
  match wordBit address 14, wordBit address 13, wordBit address 0 with
  | false, false, true => do
    let registers ← board.registers.set? board.target.toNat value
    return { board with registers }.mapWindows
  | _, _, _ => some (board.writeRegister address value)

/-- What a processor write reaches, and its effect on the registers. -/
def indexedWrite (board : Mmc3) (address : UInt16) (value : UInt8) :
    Option (Option WriteTarget × Mmc3) :=
  if inBoardMemory address then do
    let ram ← board.ram.set? (boardIndex address) value
    return (some .absorbed, { board with ram })
  else if inProgramSpace address then do
    let board ← board.indexedWriteRegister address value
    return (none, board)
  else some (none, board)

/-- The character offset of a read. -/
def indexedCharacterRead (board : Mmc3) (address : UInt16) : Option (Option Nat) :=
  if inCharacterSpace address then do
    let window ← board.characterWindows[(address >>> 10).toNat]?
    return some (window.toNat + (address &&& 0x03FF).toNat)
  else some none

/-- Program space has four windows. -/
theorem programIndex_eq {address : UInt16} (program : inProgramSpace address = true) :
    ((address - 0x8000) >>> 13).toNat = address.toNat / 0x2000 % 4 := by
  have bound := address.toNat_lt
  have high : (0x8000 : UInt16) ≤ address := of_decide_eq_true program
  have low : 0x8000 ≤ address.toNat := UInt16.le_iff_toNat_le.1 high
  have start : (address - 0x8000).toNat = address.toNat - 0x8000 := UInt16.toNat_sub_of_le _ _ high
  rw [toNat_shiftRight_window _ (by decide), start]
  change (address.toNat - 0x8000) / 0x2000 = _
  omega

/-- Character space has eight windows. -/
theorem characterIndex_eq {address : UInt16} (inside : inCharacterSpace address = true) :
    (address >>> 10).toNat = address.toNat / 0x0400 % 8 := by
  have low : address.toNat < 0x2000 := UInt16.lt_iff_toNat_lt.1 (of_decide_eq_true inside)
  rw [toNat_shiftRight_window _ (by decide)]
  change address.toNat / 0x0400 = _
  omega

section Reads

variable (board : Mmc3) (address : UInt16)

/-- A read of board 4 asks its memory and its windows for indexes that they have. -/
theorem indexedReadTarget_eq :
    board.indexedReadTarget address = some (board.readTarget address) := by
  have window : address.toNat / 0x2000 % 4 < 4 := Nat.mod_lt _ (by decide)
  rw [indexedReadTarget, readTarget, get?_boardIndex]
  by_cases own : inBoardMemory address = true
  · rw [if_pos own, if_pos own]
    rfl
  rw [if_neg own, if_neg own]
  by_cases program : inProgramSpace address = true
  · rw [if_pos program, if_pos program, programIndex_eq program, boardIndex_eq,
      Vector.getElem?_eq_getElem window]
    rfl
  · rw [if_neg program, if_neg program]

/-- A character read of board 4 asks for one of the eight windows. -/
theorem indexedCharacterRead_eq :
    board.indexedCharacterRead address = some (board.characterRead address) := by
  have place : (address &&& 0x03FF).toNat = address.toNat % 0x0400 :=
    toNat_and_low address (show (0x03FF : UInt16).toNat = 2 ^ 10 - 1 from rfl)
  have window : address.toNat / 0x0400 % 8 < 8 := Nat.mod_lt _ (by decide)
  rw [indexedCharacterRead, characterRead]
  by_cases inside : inCharacterSpace address = true
  · rw [if_pos inside, if_pos inside, characterIndex_eq inside, place,
      Vector.getElem?_eq_getElem window]
    rfl
  · rw [if_neg inside, if_neg inside]

end Reads

section Writes

variable {board : Mmc3} (inRange : board.TargetInRange) (address : UInt16) (value : UInt8)

include inRange

/-- A number that loses nothing when it is cut to three bits names one of eight registers. -/
theorem target_lt : board.target.toNat < 8 := by
  have cut : board.target.toNat &&& 7 = board.target.toNat := congrArg UInt8.toNat inRange
  have small : board.target.toNat &&& 7 ≤ 7 := Nat.and_le_right
  omega

/-- A register write of board 4 sets a register that is there. -/
theorem indexedWriteRegister_eq :
    board.indexedWriteRegister address value = some (board.writeRegister address value) := by
  have stored := board.registers.set?_eq (target_lt inRange) value
  rw [indexedWriteRegister, stored, writeRegister]
  cases wordBit address 14 <;> cases wordBit address 13 <;> cases wordBit address 0 <;> rfl

/-- A write to board 4 sets cells and registers that are there. -/
theorem indexedWrite_eq : board.indexedWrite address value = some (board.write address value) := by
  rw [indexedWrite, write, set?_boardIndex, indexedWriteRegister_eq inRange]
  exact ite_eq_some rfl (ite_eq_some rfl rfl)

end Writes

end Mmc3

namespace Board

/-- What a processor read reaches, if the board claims it. -/
def indexedReadTarget (board : Board) (address : UInt16) : Option (Option ReadTarget) :=
  match board with
  | mmc1 board => board.indexedReadTarget address
  | mmc3 board => board.indexedReadTarget address
  | board => some (board.readTarget address)

/-- What a processor write reaches, if the board claims it, and its effect on the registers. -/
def indexedWrite (board : Board) (address : UInt16) (value : UInt8) :
    Option (Option WriteTarget × Board) :=
  match board with
  | mmc1 board => do
    let (target, board) ← board.indexedWrite address value
    return (target, mmc1 board)
  | mmc3 board => do
    let (target, board) ← board.indexedWrite address value
    return (target, mmc3 board)
  | board => some (board.write address value)

/-- The character offset of a read, if the board claims it. -/
def indexedCharacterRead (board : Board) (address : UInt16) : Option (Option Nat) :=
  match board with
  | mmc3 board => board.indexedCharacterRead address
  | board => some (board.characterRead address)

/-- A read of any board asks for indexes that there are. -/
theorem indexedReadTarget_eq (board : Board) (address : UInt16) :
    board.indexedReadTarget address = some (board.readTarget address) := by
  cases board
  case mmc1 board => exact board.indexedReadTarget_eq address
  case mmc3 board => exact board.indexedReadTarget_eq address
  all_goals rfl

/-- A write to a board whose state says all about it sets what is there. -/
theorem indexedWrite_eq {board : Board} (storable : board.Storable) (address : UInt16)
    (value : UInt8) : board.indexedWrite address value = some (board.write address value) := by
  cases board
  case mmc1 board => simp only [indexedWrite, Mmc1.indexedWrite_eq]; rfl
  case mmc3 board => simp only [indexedWrite, Mmc3.indexedWrite_eq storable]; rfl
  all_goals rfl

/-- A character read of any board asks for windows that there are. -/
theorem indexedCharacterRead_eq (board : Board) (address : UInt16) :
    board.indexedCharacterRead address = some (board.characterRead address) := by
  cases board
  case mmc3 board => exact board.indexedCharacterRead_eq address
  all_goals rfl

end Board

namespace Cartridge

/-- A processor read, if the cartridge claims it. -/
def indexedRead (cartridge : Cartridge) (address : UInt16) : Option (Option UInt8) := do
  match ← cartridge.board.indexedReadTarget address with
  | some (.program offset) => return some (← indexedGet cartridge.program offset)
  | some (.value byte) => return some byte
  | none => return none

/-- A processor write: whether the cartridge claims it, and the cartridge after it. -/
def indexedWrite (cartridge : Cartridge) (address : UInt16) (value : UInt8) :
    Option (Bool × Cartridge) := do
  let (target, board) ← cartridge.board.indexedWrite address value
  let cartridge := { cartridge with board }
  match target with
  | some (.program offset) =>
    let program ← indexedSet cartridge.program offset value
    return (true, { cartridge with program })
  | some .absorbed => return (true, cartridge)
  | none => return (false, cartridge)

/-- A read by the picture chip, if the cartridge claims it. -/
def indexedReadCharacter (cartridge : Cartridge) (address : UInt16) : Option (Option UInt8) := do
  match ← cartridge.board.indexedCharacterRead address with
  | some offset => return some (← indexedGet cartridge.character offset)
  | none => return none

/-- A write by the picture chip: whether the cartridge claims it, and the cartridge after it. -/
def indexedWriteCharacter (cartridge : Cartridge) (address : UInt16) (value : UInt8) :
    Option (Bool × Cartridge) :=
  match cartridge.board.characterWrite address with
  | some offset => do
    let character ← indexedSet cartridge.character offset value
    return (true, { cartridge with character })
  | none => some (false, cartridge)

section Cartridges

variable (cartridge : Cartridge) (address : UInt16) (value : UInt8)

/-- A processor read of a cartridge finds all that it asks for. -/
theorem indexedRead_eq : cartridge.indexedRead address = some (cartridge.read address) := by
  rw [indexedRead, read, Board.indexedReadTarget_eq, Option.bind_eq_bind, Option.bind_some]
  rcases cartridge.board.readTarget address with _ | offset | byte
  · rfl
  · dsimp only
    rw [indexedGet_eq]
    rfl
  · rfl

/-- Every write to a cartridge with registers that a state can hold meets its arrays. -/
theorem indexedWrite_eq {cartridge : Cartridge} (storable : cartridge.board.Storable) :
    cartridge.indexedWrite address value = some (cartridge.write address value) := by
  rw [indexedWrite, write, Board.indexedWrite_eq storable, Option.bind_eq_bind, Option.bind_some]
  rcases cartridge.board.write address value with ⟨_ | offset | _, board⟩
  · rfl
  · dsimp only
    rw [indexedSet_eq]
    rfl
  · rfl

/-- A read of a cartridge by the picture chip finds all that it asks for. -/
theorem indexedReadCharacter_eq :
    cartridge.indexedReadCharacter address = some (cartridge.readCharacter address) := by
  rw [indexedReadCharacter, readCharacter, Board.indexedCharacterRead_eq, Option.bind_eq_bind,
    Option.bind_some]
  rcases cartridge.board.characterRead address with _ | offset
  · rfl
  · dsimp only
    rw [indexedGet_eq]
    rfl

/-- A write to a cartridge by the picture chip finds all that it sets. -/
theorem indexedWriteCharacter_eq :
    cartridge.indexedWriteCharacter address value
      = some (cartridge.writeCharacter address value) := by
  rw [indexedWriteCharacter, writeCharacter]
  rcases cartridge.board.characterWrite address with _ | offset
  · rfl
  · dsimp only
    rw [indexedSet_eq]
    rfl

end Cartridges

/-- A read by the picture chip, if the slot claims it. -/
def slotIndexedRead (slot : Option Cartridge) (address : UInt16) : Option (Option UInt8) :=
  match slot with
  | none => some none
  | some cartridge => cartridge.indexedReadCharacter address

/-- A write by the picture chip: whether the slot claims it, and the slot after it. -/
def slotIndexedWrite (slot : Option Cartridge) (address : UInt16) (value : UInt8) :
    Option (Bool × Option Cartridge) :=
  match slot with
  | none => some (false, none)
  | some cartridge => do
    let (claimed, cartridge) ← cartridge.indexedWriteCharacter address value
    return (claimed, some cartridge)

/-- A read of the slot by the picture chip finds all that it asks for. -/
theorem slotIndexedRead_eq (slot : Option Cartridge) (address : UInt16) :
    slotIndexedRead slot address = some (CartridgeSide.readCharacter slot address) := by
  cases slot with
  | none => rfl
  | some cartridge => exact cartridge.indexedReadCharacter_eq address

/-- A write to the slot by the picture chip finds all that it sets. -/
theorem slotIndexedWrite_eq (slot : Option Cartridge) (address : UInt16) (value : UInt8) :
    slotIndexedWrite slot address value
      = some (CartridgeSide.writeCharacter slot address value) := by
  cases slot with
  | none => rfl
  | some cartridge =>
    rw [slotIndexedWrite, indexedWriteCharacter_eq]
    rfl

end Cartridge

end Nes
