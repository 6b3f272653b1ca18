import Nes.Cartridge.Discrete
import Nes.Cartridge.Mirroring

/-!
# The board with a serial register

Board 1 (MMC1) is loaded one bit at a time: five writes of a low bit make a five-bit number, the
first bit the least significant, and the address of the fifth write tells which register takes
it. A write with bit 7 set abandons the bits so far and fixes the last program bank high.
-/
namespace Nes

/-- The state of board 1. -/
structure Mmc1 where
  /-- Bank counts. -/
  banks : BankCounts
  /-- Mirroring, program mode and character mode. -/
  control : UInt8
  /-- The character bank at `0000`, 4 KiB in size. -/
  characterLow : UInt8
  /-- The character bank at `1000`, 4 KiB in size. -/
  characterHigh : UInt8
  /-- The character bank of the mode with one window, counted in 4 KiB. -/
  characterWhole : UInt8
  /-- The program bank at `8000`, 16 KiB in size. -/
  programLow : UInt8
  /-- The program bank at `C000`, 16 KiB in size. -/
  programHigh : UInt8
  /-- The program bank of the mode with one window, 32 KiB in size. -/
  programWhole : UInt8
  /-- The bits written so far; they enter at bit 4. -/
  shift : UInt8
  /-- How many bits have been written. -/
  count : UInt8
  /-- The mirroring that the control register chose. -/
  mirroring : Option Mirroring
  /-- Memory on the board. -/
  ram : Memory 0x2000
deriving DecidableEq

namespace Mmc1

/-- Return the registers to power-on values. The mirroring and the memory stay. -/
def reset (board : Mmc1) : Mmc1 :=
  { board with
    control := 0x1C
    shift := 0
    count := 0
    characterLow := 0
    characterHigh := 0
    characterWhole := 0
    programWhole := 0
    programLow := 0
    programHigh := board.banks.lastProgram }

/-- The board at power-on. -/
def powerOn (banks : BankCounts) : Mmc1 :=
  reset ⟨banks, 0, 0, 0, 0, 0, 0, 0, 0, 0, some .horizontal, Memory.zeros _⟩

/-- Program memory is seen through two windows. -/
def splitsProgram (board : Mmc1) : Bool := bit board.control 3

/-- Character memory is seen through two windows. -/
def splitsCharacter (board : Mmc1) : Bool := bit board.control 4

/-- The mirroring that the two low control bits choose. -/
def chosenMirroring (control : UInt8) : Mirroring :=
  match bit control 1, bit control 0 with
  | false, false => .oneScreenLow
  | false, true => .oneScreenHigh
  | true, false => .vertical
  | true, true => .horizontal

/-- Put a value into the program register, whose meaning the mode in force decides. -/
def setProgram (board : Mmc1) (value : UInt8) : Mmc1 :=
  match bit board.control 3, bit board.control 2 with
  | false, _ => { board with programWhole := (value &&& 0x0E) >>> 1 }
  | true, false => { board with programLow := 0, programHigh := value &&& 0x0F }
  | true, true =>
    { board with programLow := value &&& 0x0F, programHigh := board.banks.lastProgram }

/-- Put a complete number into the register that an address names by bits 13 and 14. -/
def commit (board : Mmc1) (address : UInt16) (value : UInt8) : Mmc1 :=
  match wordBit address 14, wordBit address 13 with
  | false, false =>
    { board with control := value, mirroring := some (chosenMirroring value) }
  | false, true =>
    if board.splitsCharacter then { board with characterLow := value }
    else { board with characterWhole := value &&& 0x1E }
  | true, false =>
    if board.splitsCharacter then { board with characterHigh := value } else board
  | true, true => board.setProgram value

/-- A write to the serial register. -/
def writeSerial (board : Mmc1) (address : UInt16) (value : UInt8) : Mmc1 :=
  if bit value 7 then
    { board with shift := 0, count := 0, control := board.control ||| 0x0C }
  else
    let shift := board.shift >>> 1 ||| (value &&& 0x01) <<< 4
    let count := board.count + 1
    if count < 5 then { board with shift, count }
    else { board.commit address (shift &&& 0x1F) with shift := 0, count := 0 }

/-- What a processor read reaches. -/
def readTarget (board : Mmc1) (address : UInt16) : Option ReadTarget :=
  if inBoardMemory address then some (.value (board.ram.read address.toNat))
  else if inProgramSpace address then
    if board.splitsProgram then
      let bank := if address < 0xC000 then board.programLow else board.programHigh
      some (.program (bank.toNat * 0x4000 + address.toNat % 0x4000))
    else some (.program (board.programWhole.toNat * 0x8000 + address.toNat % 0x8000))
  else none

/-- What a processor write reaches, and its effect on the registers. -/
def write (board : Mmc1) (address : UInt16) (value : UInt8) : Option WriteTarget × Mmc1 :=
  if inBoardMemory address then
    (some .absorbed, { board with ram := board.ram.write address.toNat value })
  else if inProgramSpace address then (none, board.writeSerial address value)
  else (none, board)

/-- The character offset of a read. Writable character memory is not switched. -/
def characterRead (board : Mmc1) (address : UInt16) : Option Nat :=
  if inCharacterSpace address then
    if board.banks.character = 0 then some address.toNat
    else if board.splitsCharacter then
      let bank := if address < 0x1000 then board.characterLow else board.characterHigh
      some (bank.toNat * 0x1000 + address.toNat % 0x1000)
    else some (board.characterWhole.toNat * 0x1000 + address.toNat)
  else none

/-- The character offset of a write. -/
def characterWrite (board : Mmc1) (address : UInt16) : Option Nat :=
  board.banks.writableCharacter address

open SaveState in
/-- The stored form of the board. -/
def layout : Layout Mmc1 := [
  ⟨BankCounts.codec, (·.banks), fun value board => { board with banks := value }⟩,
  ⟨.byte, (·.characterLow), fun value board => { board with characterLow := value }⟩,
  ⟨.byte, (·.characterHigh), fun value board => { board with characterHigh := value }⟩,
  ⟨.byte, (·.characterWhole), fun value board => { board with characterWhole := value }⟩,
  ⟨.byte, (·.programLow), fun value board => { board with programLow := value }⟩,
  ⟨.byte, (·.programHigh), fun value board => { board with programHigh := value }⟩,
  ⟨.byte, (·.programWhole), fun value board => { board with programWhole := value }⟩,
  ⟨.byte, (·.shift), fun value board => { board with shift := value }⟩,
  ⟨.byte, (·.count), fun value board => { board with count := value }⟩,
  ⟨.byte, (·.control), fun value board => { board with control := value }⟩,
  ⟨Mirroring.choiceCodec, (·.mirroring), fun value board => { board with mirroring := value }⟩,
  ⟨.counted, (·.ram.toList), fun value board =>
    { board with ram := Memory.ofListPadded value }⟩]

end Mmc1

end Nes
