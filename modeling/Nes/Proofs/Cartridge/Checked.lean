import Nes.Ppu.CartridgeSide
import Nes.Proofs.Arithmetic.Checked
import Nes.Proofs.Cartridge.Bounds

/-!
# The arithmetic of cartridges

A board counts banks, windows, bits and lines. All of that is meant exactly, so the functions that
count are given here once more with checked arithmetic. On a cartridge within its bounds every check
succeeds (`Cartridge.checkedRead_eq` and the like). The bounds that matter are those of the window
offsets, which add up to less than 2³², and of the counter of lines, which is not at zero where it
goes down.
-/
namespace Nes

/-- The offset of a place in a numbered bank. -/
def bankOffset? (bank : UInt8) (size place : Nat) : Option Nat := do
  let start ← mul? bank.toNat size
  add? start place

/-- Banks up to 32 KiB in size end below 2³². -/
theorem bankOffset?_eq (bank : UInt8) {size place : Nat} (small : size ≤ 0x8000)
    (inside : place < 0x10000) :
    bankOffset? bank size place = some (bank.toNat * size + place) := by
  have number := bank.toNat_lt
  have product : bank.toNat * size ≤ 255 * 0x8000 :=
    Nat.mul_le_mul (Nat.le_of_lt_succ number) small
  have start : mul? bank.toNat size = some (bank.toNat * size) := mul?_offset (by omega)
  have place : add? (bank.toNat * size) place = some (bank.toNat * size + place) :=
    add?_offset (by omega)
  rw [bankOffset?, start, Option.bind_eq_bind, Option.bind_some, place]

/-- Part of an address is small. -/
theorem toNat_mod_lt (address : UInt16) (size : Nat) : address.toNat % size < 0x10000 :=
  (Nat.mod_le _ _).trans_lt address.toNat_lt

namespace Uxrom

/-- What a processor read reaches. -/
def checkedReadTarget (board : Uxrom) (address : UInt16) : Option (Option ReadTarget) :=
  if inProgramSpace address then
    let bank := if address < 0xC000 then board.low else board.high
    (bankOffset? bank 0x4000 (address.toNat % 0x4000)).map fun offset => some (.program offset)
  else some none

/-- The two program windows of board 2 are within the offsets of memory. -/
theorem checkedReadTarget_eq (board : Uxrom) (address : UInt16) :
    board.checkedReadTarget address = some (board.readTarget address) := by
  rw [checkedReadTarget, readTarget]
  split
  · dsimp only
    rw [bankOffset?_eq _ (by decide) (toNat_mod_lt _ _)]
    rfl
  · rfl

end Uxrom

namespace Cnrom

/-- The character offset of a read. -/
def checkedCharacterRead (board : Cnrom) (address : UInt16) : Option (Option Nat) :=
  if inCharacterSpace address then
    (bankOffset? board.character characterBankSize address.toNat).map some
  else some none

/-- The character window of board 3 is within the offsets of memory. -/
theorem checkedCharacterRead_eq (board : Cnrom) (address : UInt16) :
    board.checkedCharacterRead address = some (board.characterRead address) := by
  rw [checkedCharacterRead, characterRead]
  split
  · rw [bankOffset?_eq _ (by decide) address.toNat_lt]
    rfl
  · rfl

end Cnrom

namespace Gxrom

/-- What a processor read reaches. -/
def checkedReadTarget (board : Gxrom) (address : UInt16) : Option (Option ReadTarget) :=
  if inProgramSpace address then
    (bankOffset? board.program 0x8000 (address.toNat % 0x8000)).map fun offset =>
      some (.program offset)
  else some none

/-- The program window of board 66 is within the offsets of memory. -/
theorem checkedReadTarget_eq (board : Gxrom) (address : UInt16) :
    board.checkedReadTarget address = some (board.readTarget address) := by
  rw [checkedReadTarget, readTarget]
  split
  · rw [bankOffset?_eq _ (by decide) (toNat_mod_lt _ _)]
    rfl
  · rfl

/-- The character offset of a read. -/
def checkedCharacterRead (board : Gxrom) (address : UInt16) : Option (Option Nat) :=
  if inCharacterSpace address then
    (bankOffset? board.character characterBankSize address.toNat).map some
  else some none

/-- The character window of board 66 is within the offsets of memory. -/
theorem checkedCharacterRead_eq (board : Gxrom) (address : UInt16) :
    board.checkedCharacterRead address = some (board.characterRead address) := by
  rw [checkedCharacterRead, characterRead]
  split
  · rw [bankOffset?_eq _ (by decide) address.toNat_lt]
    rfl
  · rfl

end Gxrom

namespace Mmc1

/-- What a processor read reaches. -/
def checkedReadTarget (board : Mmc1) (address : UInt16) : Option (Option ReadTarget) :=
  if inBoardMemory address then some (some (.value (board.ram.read address.toNat)))
  else if inProgramSpace address then
    if board.splitsProgram then
      let bank := if address < 0xC000 then board.programLow else board.programHigh
      (bankOffset? bank 0x4000 (address.toNat % 0x4000)).map fun offset => some (.program offset)
    else
      (bankOffset? board.programWhole 0x8000 (address.toNat % 0x8000)).map fun offset =>
        some (.program offset)
  else some none

/-- Both program modes of board 1 are within the offsets of memory. -/
theorem checkedReadTarget_eq (board : Mmc1) (address : UInt16) :
    board.checkedReadTarget address = some (board.readTarget address) := by
  rw [checkedReadTarget, readTarget]
  split
  · rfl
  split
  · split
    · dsimp only
      rw [bankOffset?_eq _ (by decide) (toNat_mod_lt _ _)]
      rfl
    · rw [bankOffset?_eq _ (by decide) (toNat_mod_lt _ _)]
      rfl
  · rfl

/-- The character offset of a read. -/
def checkedCharacterRead (board : Mmc1) (address : UInt16) : Option (Option Nat) :=
  if inCharacterSpace address then
    if board.banks.character = 0 then some (some address.toNat)
    else if board.splitsCharacter then
      let bank := if address < 0x1000 then board.characterLow else board.characterHigh
      (bankOffset? bank 0x1000 (address.toNat % 0x1000)).map some
    else (bankOffset? board.characterWhole 0x1000 address.toNat).map some
  else some none

/-- Both character modes of board 1 are within the offsets of memory. -/
theorem checkedCharacterRead_eq (board : Mmc1) (address : UInt16) :
    board.checkedCharacterRead address = some (board.characterRead address) := by
  rw [checkedCharacterRead, characterRead]
  split
  · split
    · rfl
    split
    · dsimp only
      rw [bankOffset?_eq _ (by decide) (toNat_mod_lt _ _)]
      rfl
    · rw [bankOffset?_eq _ (by decide) address.toNat_lt]
      rfl
  · rfl

/-- A write to the serial register. -/
def checkedWriteSerial (board : Mmc1) (address : UInt16) (value : UInt8) : Option Mmc1 :=
  if bit value 7 then
    some { board with shift := 0, count := 0, control := board.control ||| 0x0C }
  else do
    let shift := board.shift >>> 1 ||| (value &&& 0x01) <<< 4
    let count ← add? board.count 1
    if count < 5 then return { board with shift, count }
    else return { board.commit address (shift &&& 0x1F) with shift := 0, count := 0 }

/-- The count of bits has room for one more. -/
theorem checkedWriteSerial_eq {board : Mmc1} (bounded : board.Bounded) (address : UInt16)
    (value : UInt8) :
    board.checkedWriteSerial address value = some (board.writeSerial address value) := by
  have counted : add? board.count 1 = some (board.count + 1) := by
    have count := bounded.count_lt
    apply add?_byte
    change board.count.toNat + 1 < 256
    omega
  rw [checkedWriteSerial, writeSerial]
  split
  · rfl
  · dsimp only
    rw [counted, Option.bind_eq_bind, Option.bind_some]
    split <;> rfl

/-- What a processor write reaches, and its effect on the registers. -/
def checkedWrite (board : Mmc1) (address : UInt16) (value : UInt8) :
    Option (Option WriteTarget × Mmc1) :=
  if inBoardMemory address then
    some (some .absorbed, { board with ram := board.ram.write address.toNat value })
  else if inProgramSpace address then
    (board.checkedWriteSerial address value).map fun board => (none, board)
  else some (none, board)

/-- The count of the bits written to board 1 does not overflow. -/
theorem checkedWrite_eq {board : Mmc1} (bounded : board.Bounded) (address : UInt16)
    (value : UInt8) : board.checkedWrite address value = some (board.write address value) := by
  rw [checkedWrite, write]
  split
  · rfl
  split
  · rw [checkedWriteSerial_eq bounded]
    rfl
  · rfl

end Mmc1

namespace Mmc3

/-- The offset of a place in a window. -/
def windowOffset? (window : UInt32) (place : Nat) : Option Nat := add? window.toNat place

/-- A place in a window that is in reach has an offset of 32 bits. -/
theorem windowOffset?_eq {window : UInt32} {place : Nat} (inReach : InReach window)
    (inside : place < 0x10000) : windowOffset? window place = some (window.toNat + place) := by
  have start : window.toNat < 0x40000000 := inReach
  exact add?_offset (by omega)

/-- A place in program space lies in one of four windows. -/
theorem programWindow_lt (place : UInt16) : place.toNat / 0x2000 % 4 < 4 :=
  Nat.mod_lt _ (by decide)

/-- An address of character space lies in one of eight windows. -/
theorem characterWindow_lt (address : UInt16) : address.toNat / 0x0400 % 8 < 8 :=
  Nat.mod_lt _ (by decide)

/-- The program offset that an address is mapped to. The first window is at `8000`. -/
def checkedProgramOffset (board : Mmc3) (address : UInt16) : Option Nat := do
  let place ← sub? address 0x8000
  let window := board.programWindows.get ⟨place.toNat / 0x2000 % 4, programWindow_lt place⟩
  windowOffset? window (address.toNat % 0x2000)

/-- The program windows of board 4 are within the offsets of memory. -/
theorem checkedProgramOffset_eq {board : Mmc3} (bounded : board.Bounded) {address : UInt16}
    (shown : inProgramSpace address = true) :
    board.checkedProgramOffset address = some (board.programOffset address) := by
  have high : 0x8000 ≤ address := of_decide_eq_true shown
  have bound : 0x8000 ≤ address.toNat := UInt16.le_iff_toNat_le.1 high
  have place : sub? address 0x8000 = some (address - 0x8000) := sub?_word bound
  have window : (address - 0x8000).toNat / 0x2000 % 4 = address.toNat / 0x2000 % 4 := by
    rw [UInt16.toNat_sub_of_le _ _ high]
    change (address.toNat - 0x8000) / 0x2000 % 4 = _
    omega
  have inReach := bounded.programWindows _ (Vector.getElem_mem (programWindow_lt address))
  rw [checkedProgramOffset, place, Option.bind_eq_bind, Option.bind_some]
  simp only [window]
  exact windowOffset?_eq inReach (toNat_mod_lt _ _)

/-- The character offset that an address is mapped to. -/
def checkedCharacterOffset (board : Mmc3) (address : UInt16) : Option Nat :=
  let window := board.characterWindows.get
    ⟨address.toNat / 0x0400 % 8, characterWindow_lt address⟩
  windowOffset? window (address.toNat % 0x0400)

/-- The character windows of board 4 are within the offsets of memory. -/
theorem checkedCharacterOffset_eq {board : Mmc3} (bounded : board.Bounded) (address : UInt16) :
    board.checkedCharacterOffset address = some (board.characterOffset address) := by
  have inReach := bounded.characterWindows _ (Vector.getElem_mem (characterWindow_lt address))
  exact windowOffset?_eq inReach (toNat_mod_lt _ _)

/-- What a processor read reaches. -/
def checkedReadTarget (board : Mmc3) (address : UInt16) : Option (Option ReadTarget) :=
  if inBoardMemory address then some (some (.value (board.ram.read address.toNat)))
  else if inProgramSpace address then
    (board.checkedProgramOffset address).map fun offset => some (.program offset)
  else some none

/-- A processor read of board 4 is exact. -/
theorem checkedReadTarget_eq {board : Mmc3} (bounded : board.Bounded) (address : UInt16) :
    board.checkedReadTarget address = some (board.readTarget address) := by
  rw [checkedReadTarget, readTarget]
  split
  · rfl
  split
  case isTrue shown =>
    rw [checkedProgramOffset_eq bounded shown]
    rfl
  case isFalse => rfl

/-- The character offset of a read. -/
def checkedCharacterRead (board : Mmc3) (address : UInt16) : Option (Option Nat) :=
  if inCharacterSpace address then (board.checkedCharacterOffset address).map some
  else some none

/-- A read of board 4 by the picture chip is exact. -/
theorem checkedCharacterRead_eq {board : Mmc3} (bounded : board.Bounded) (address : UInt16) :
    board.checkedCharacterRead address = some (board.characterRead address) := by
  rw [checkedCharacterRead, characterRead]
  split
  · rw [checkedCharacterOffset_eq bounded]
    rfl
  · rfl

/-- The offset of a window of program memory counted from the end, or of the first one. -/
def programFromEnd? (banks : BankCounts) (count : Nat) : Option UInt32 := do
  let windows ← mul? banks.program.toNat 2
  mul? (windows - count).toUInt32 programWindowSize

/-- The start of a window counted from the end of program memory is exact. -/
theorem programFromEnd?_eq (banks : BankCounts) (count : Nat) :
    programFromEnd? banks count = some (programFromEnd banks count) := by
  have bound := banks.program.toNat_lt
  have windows : mul? banks.program.toNat 2 = some (banks.program.toNat * 2) :=
    mul?_offset (by omega)
  have offset : mul? (banks.program.toNat * 2 - count).toUInt32 programWindowSize
      = some (programFromEnd banks count) := by
    apply mul?_doubleWord
    rw [toNat_windowsFromEnd]
    change _ * 0x2000 < 4294967296
    omega
  rw [programFromEnd?, windows, Option.bind_eq_bind, Option.bind_some, offset]

/-- The windows of the registers and the mode bits. -/
def checkedMapWindows (board : Mmc3) : Option Mmc3 := do
  let size := characterWindowSize
  let pair0 ← mul? (board.register 0 &&& 0xFE) size
  let start0 ← mul? (board.register 0) size
  let pair0' ← add? start0 size
  let pair1 ← mul? (board.register 1 &&& 0xFE) size
  let start1 ← mul? (board.register 1) size
  let pair1' ← add? start1 size
  let single2 ← mul? (board.register 2) size
  let single3 ← mul? (board.register 3) size
  let single4 ← mul? (board.register 4) size
  let single5 ← mul? (board.register 5) size
  let switched ← mul? (board.register 6 &&& 0x3F) programWindowSize
  let middle ← mul? (board.register 7 &&& 0x3F) programWindowSize
  let fixed ← programFromEnd? board.banks 2
  let last ← programFromEnd? board.banks 1
  return { board with
    characterWindows :=
      if board.characterSwapped then
        #v[single2, single3, single4, single5, pair0, pair0', pair1, pair1']
      else #v[pair0, pair0', pair1, pair1', single2, single3, single4, single5]
    programWindows :=
      if board.programSwapped then #v[fixed, middle, switched, last]
      else #v[switched, middle, fixed, last] }

/-- The window of a bank whose number is a byte has an offset. -/
theorem mul?_window {bank size : UInt32} (number : bank.toNat < 256)
    (small : size.toNat ≤ 0x2000) : mul? bank size = some (bank * size) := by
  have product : bank.toNat * size.toNat ≤ 255 * 0x2000 :=
    Nat.mul_le_mul (Nat.le_of_lt_succ number) small
  exact mul?_doubleWord (by omega)

/-- So has the window behind it. -/
theorem add?_nextWindow {window size : UInt32} (inReach : InReach window)
    (small : size.toNat ≤ 0x2000) : add? window size = some (window + size) := by
  have start : window.toNat < 0x40000000 := inReach
  exact add?_doubleWord (by omega)

/-- All windows of board 4 are set with exact offsets. -/
theorem checkedMapWindows_eq (board : Mmc3) :
    board.checkedMapWindows = some board.mapWindows := by
  have small : characterWindowSize.toNat ≤ 0x2000 := by decide
  have single (index : Nat) : mul? (board.register index) characterWindowSize
      = some (board.register index * characterWindowSize) :=
    mul?_window (board.toNat_register_lt index) small
  have even (index : Nat) : mul? (board.register index &&& 0xFE) characterWindowSize
      = some ((board.register index &&& 0xFE) * characterWindowSize) :=
    mul?_window (board.toNat_register_and_lt index _) small
  have odd (index : Nat) :
      add? (board.register index * characterWindowSize) characterWindowSize
        = some (board.register index * characterWindowSize + characterWindowSize) :=
    add?_nextWindow (inReach_window (board.toNat_register_lt index) small) small
  have switched (index : Nat) : mul? (board.register index &&& 0x3F) programWindowSize
      = some ((board.register index &&& 0x3F) * programWindowSize) :=
    mul?_window (board.toNat_register_and_lt index _) (by decide)
  -- the binds are opened by rewriting, as comparing them would carry the products out
  simp -implicitDefEqProofs only [checkedMapWindows, mapWindows, single, even, odd, switched,
    programFromEnd?_eq, Option.bind_eq_bind, Option.bind_some, Option.pure_def]

/-- A write to a register; bank data has the windows worked out again. -/
def checkedWriteRegister (board : Mmc3) (address : UInt16) (value : UInt8) : Option Mmc3 :=
  match wordBit address 14, wordBit address 13, wordBit address 0 with
  | false, false, true =>
    { board with registers := board.registers.write board.target.toNat value }.checkedMapWindows
  | _, _, _ => some (board.writeRegister address value)

/-- A register write of board 4 is exact. -/
theorem checkedWriteRegister_eq (board : Mmc3) (address : UInt16) (value : UInt8) :
    board.checkedWriteRegister address value = some (board.writeRegister address value) := by
  rw [checkedWriteRegister]
  split
  case h_1 high middle low =>
    rw [checkedMapWindows_eq, writeRegister, high, middle, low]
  case h_2 => rfl

/-- What a processor write reaches, and its effect on the registers. -/
def checkedWrite (board : Mmc3) (address : UInt16) (value : UInt8) :
    Option (Option WriteTarget × Mmc3) :=
  if inBoardMemory address then
    some (some .absorbed, { board with ram := board.ram.write address.toNat value })
  else if inProgramSpace address then
    (board.checkedWriteRegister address value).map fun board => (none, board)
  else some (none, board)

/-- Any processor write to board 4 is exact. -/
theorem checkedWrite_eq (board : Mmc3) (address : UInt16) (value : UInt8) :
    board.checkedWrite address value = some (board.write address value) := by
  rw [checkedWrite, write]
  split
  · rfl
  split
  · rw [checkedWriteRegister_eq]
    rfl
  · rfl

/-- Count one line of the picture. -/
def checkedCountLine (board : Mmc3) : Option Mmc3 := do
  let irqCounter ←
    if board.irqCounter = 0 then some board.irqReload else sub? board.irqCounter 1
  return { board with
    irqCounter
    irqPending := board.irqPending || (irqCounter == 0 && board.irqEnabled) }

/-- The counter goes down from above zero only. -/
theorem checkedCountLine_eq (board : Mmc3) : board.checkedCountLine = some board.countLine := by
  rw [checkedCountLine, countLine]
  split
  · rfl
  · rename_i more
    have positive : 0 < board.irqCounter.toNat :=
      Nat.pos_of_ne_zero fun zero => more (UInt16.toNat_inj.1 zero)
    have next : sub? board.irqCounter 1 = some (board.irqCounter - 1) := sub?_word positive
    rw [next]
    rfl

end Mmc3

namespace Board

/-- What a processor read reaches, if the board claims it. -/
def checkedReadTarget (board : Board) (address : UInt16) : Option (Option ReadTarget) :=
  match board with
  | nrom board => some (board.readTarget address)
  | mmc1 board => board.checkedReadTarget address
  | uxrom board => board.checkedReadTarget address
  | cnrom board => some (board.readTarget address)
  | mmc3 board => board.checkedReadTarget address
  | gxrom board => board.checkedReadTarget address

/-- A processor read of any board is exact. -/
theorem checkedReadTarget_eq {board : Board} (bounded : board.Bounded) (address : UInt16) :
    board.checkedReadTarget address = some (board.readTarget address) := by
  cases board
  case nrom board => rfl
  case mmc1 board => exact board.checkedReadTarget_eq address
  case uxrom board => exact board.checkedReadTarget_eq address
  case cnrom board => rfl
  case mmc3 board => exact Mmc3.checkedReadTarget_eq bounded address
  case gxrom board => exact board.checkedReadTarget_eq address

/-- What a processor write reaches, and its effect on the registers. -/
def checkedWrite (board : Board) (address : UInt16) (value : UInt8) :
    Option (Option WriteTarget × Board) :=
  match board with
  | mmc1 board => (board.checkedWrite address value).map fun written => (written.1, mmc1 written.2)
  | mmc3 board => (board.checkedWrite address value).map fun written => (written.1, mmc3 written.2)
  | board => some (board.write address value)

/-- A processor write to any board is exact. -/
theorem checkedWrite_eq {board : Board} (bounded : board.Bounded) (address : UInt16)
    (value : UInt8) : board.checkedWrite address value = some (board.write address value) := by
  cases board
  case mmc1 board =>
    rw [checkedWrite, Mmc1.checkedWrite_eq bounded]
    rfl
  case mmc3 board =>
    rw [checkedWrite, board.checkedWrite_eq]
    rfl
  all_goals rfl

/-- The character offset of a read, if the board claims it. -/
def checkedCharacterRead (board : Board) (address : UInt16) : Option (Option Nat) :=
  match board with
  | nrom board => some (board.characterRead address)
  | mmc1 board => board.checkedCharacterRead address
  | uxrom board => some (board.characterRead address)
  | cnrom board => board.checkedCharacterRead address
  | mmc3 board => board.checkedCharacterRead address
  | gxrom board => board.checkedCharacterRead address

/-- A read of any board by the picture chip is exact. -/
theorem checkedCharacterRead_eq {board : Board} (bounded : board.Bounded) (address : UInt16) :
    board.checkedCharacterRead address = some (board.characterRead address) := by
  cases board
  case nrom board => rfl
  case mmc1 board => exact board.checkedCharacterRead_eq address
  case uxrom board => rfl
  case cnrom board => exact board.checkedCharacterRead_eq address
  case mmc3 board => exact Mmc3.checkedCharacterRead_eq bounded address
  case gxrom board => exact board.checkedCharacterRead_eq address

/-- Tell the board that a line of the picture has been drawn. -/
def checkedCountLine : Board → Option Board
  | mmc3 board => board.checkedCountLine.map mmc3
  | board => some board

/-- A count of a line is exact on any board. -/
theorem checkedCountLine_eq (board : Board) : board.checkedCountLine = some board.countLine := by
  cases board
  case mmc3 board =>
    rw [checkedCountLine, board.checkedCountLine_eq]
    rfl
  all_goals rfl

end Board

namespace Cartridge

/-- A processor read, if the cartridge claims it. -/
def checkedRead (cartridge : Cartridge) (address : UInt16) : Option (Option UInt8) := do
  match ← cartridge.board.checkedReadTarget address with
  | some (.program offset) => return some (wrappedGet cartridge.program offset)
  | some (.value byte) => return some byte
  | none => return none

/-- A processor read of a cartridge is exact. -/
theorem checkedRead_eq {cartridge : Cartridge} (bounded : cartridge.Bounded) (address : UInt16) :
    cartridge.checkedRead address = some (cartridge.read address) := by
  rw [checkedRead, Board.checkedReadTarget_eq bounded.board, Option.bind_eq_bind,
    Option.bind_some, read]
  rcases cartridge.board.readTarget address with _ | offset | byte <;> rfl

/-- A processor write: whether the cartridge claims it, and the cartridge after it. -/
def checkedWrite (cartridge : Cartridge) (address : UInt16) (value : UInt8) :
    Option (Bool × Cartridge) := do
  let (target, board) ← cartridge.board.checkedWrite address value
  let cartridge := { cartridge with board }
  match target with
  | some (.program offset) =>
    return (true, { cartridge with program := wrappedSet cartridge.program offset value })
  | some .absorbed => return (true, cartridge)
  | none => return (false, cartridge)

/-- A processor write to a cartridge is exact. -/
theorem checkedWrite_eq {cartridge : Cartridge} (bounded : cartridge.Bounded) (address : UInt16)
    (value : UInt8) :
    cartridge.checkedWrite address value = some (cartridge.write address value) := by
  rw [checkedWrite, Board.checkedWrite_eq bounded.board, Option.bind_eq_bind, Option.bind_some,
    write]
  rcases cartridge.board.write address value with ⟨_ | offset | _, board⟩ <;> rfl

/-- A read by the picture chip, if the cartridge claims it. -/
def checkedReadCharacter (cartridge : Cartridge) (address : UInt16) : Option (Option UInt8) :=
  (cartridge.board.checkedCharacterRead address).map fun offset =>
    offset.map (wrappedGet cartridge.character)

/-- A read of a cartridge by the picture chip is exact. -/
theorem checkedReadCharacter_eq {cartridge : Cartridge} (bounded : cartridge.Bounded)
    (address : UInt16) :
    cartridge.checkedReadCharacter address = some (cartridge.readCharacter address) := by
  rw [checkedReadCharacter, Board.checkedCharacterRead_eq bounded.board]
  rfl

/-- Tell the cartridge that a line of the picture has been drawn. -/
def checkedCountLine (cartridge : Cartridge) : Option Cartridge :=
  cartridge.board.checkedCountLine.map fun board => { cartridge with board }

/-- A count of a line is exact on any cartridge. -/
theorem checkedCountLine_eq (cartridge : Cartridge) :
    cartridge.checkedCountLine = some cartridge.countLine := by
  rw [checkedCountLine, Board.checkedCountLine_eq]
  rfl

/-- A read by the picture chip, if the slot claims it. -/
def slotReadCharacter? (slot : Option Cartridge) (address : UInt16) : Option (Option UInt8) :=
  match slot with
  | none => some none
  | some cartridge => cartridge.checkedReadCharacter address

/-- A read of the slot by the picture chip is exact, whether a cartridge is in it or not. -/
theorem slotReadCharacter?_eq {slot : Option Cartridge} (bounded : SlotBounded slot)
    (address : UInt16) :
    slotReadCharacter? slot address = some (CartridgeSide.readCharacter slot address) := by
  cases slot with
  | none => rfl
  | some cartridge => exact checkedReadCharacter_eq (bounded cartridge rfl) address

/-- Tell the slot that a line of the picture has been drawn. -/
def slotCountLine? : Option Cartridge → Option (Option Cartridge)
  | none => some none
  | some cartridge => cartridge.checkedCountLine.map some

/-- A slot is told exactly about a line, whether a cartridge is in it or not. -/
theorem slotCountLine?_eq (slot : Option Cartridge) :
    slotCountLine? slot = some (CartridgeSide.countLine slot) := by
  cases slot with
  | none => rfl
  | some cartridge =>
    rw [slotCountLine?, checkedCountLine_eq]
    rfl

end Cartridge

end Nes
