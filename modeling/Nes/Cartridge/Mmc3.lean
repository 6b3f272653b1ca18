import Nes.Cartridge.Discrete
import Nes.Cartridge.Mirroring

/-!
# The board with many windows and a line counter

Board 4 (MMC3) shows program memory through four windows of 8 KiB and character memory through
eight of 1 KiB. The windows are worked out when bank data is written, not when the mode bits are,
so they follow the mode as it stood at the latest data write. A counter of picture lines raises
an interrupt.
-/
namespace Nes

/-- The state of board 4. -/
structure Mmc3 where
  /-- Bank counts. -/
  banks : BankCounts
  /-- The register that the next data write goes to. -/
  target : UInt8
  /-- The switched and the fixed program window have changed places. -/
  programSwapped : Bool
  /-- The two halves of character memory have changed places. -/
  characterSwapped : Bool
  /-- The mirroring chosen at run time. -/
  mirroring : Option Mirroring
  /-- The eight bank registers. -/
  registers : Memory 8
  /-- The offsets of the character windows. -/
  characterWindows : Vector UInt32 8
  /-- The offsets of the program windows. -/
  programWindows : Vector UInt32 4
  /-- An interrupt is pending. -/
  irqPending : Bool
  /-- The counter may raise interrupts. -/
  irqEnabled : Bool
  /-- Lines until the next interrupt. -/
  irqCounter : UInt16
  /-- What the counter starts from. -/
  irqReload : UInt16
  /-- Memory on the board. -/
  ram : Memory 0x2000
deriving DecidableEq

namespace Mmc3

/-- The size of a program window. -/
def programWindowSize : UInt32 := 0x2000

/-- The size of a character window. -/
def characterWindowSize : UInt32 := 0x0400

/-- The offset of a program window counted from the end of program memory. -/
def programFromEnd (banks : BankCounts) (count : Nat) : UInt32 :=
  (banks.program.toNat * 2 - count).toUInt32 * programWindowSize

/-- Return the registers to power-on values. The memory stays. -/
def reset (board : Mmc3) : Mmc3 :=
  { board with
    target := 0
    programSwapped := false
    characterSwapped := false
    mirroring := some .horizontal
    irqPending := false
    irqEnabled := false
    irqCounter := 0
    irqReload := 0
    registers := Memory.zeros 8
    characterWindows := Vector.replicate 8 0
    programWindows :=
      #v[0, programWindowSize, programFromEnd board.banks 2, programFromEnd board.banks 1] }

/-- The board at power-on. -/
def powerOn (banks : BankCounts) : Mmc3 :=
  reset ⟨banks, 0, false, false, none, Memory.zeros 8, Vector.replicate 8 0, Vector.replicate 4 0,
    false, false, 0, 0, Memory.zeros _⟩

/-- A bank register as a number of windows. -/
def register (board : Mmc3) (index : Nat) : UInt32 := (board.registers.read index).toUInt32

/-- Work the windows out from the registers and the mode bits. The low bit of a register that
selects two character windows has no meaning for the first of the two. -/
def mapWindows (board : Mmc3) : Mmc3 :=
  let size := characterWindowSize
  let pair0 := (board.register 0 &&& 0xFE) * size
  let pair0' := board.register 0 * size + size
  let pair1 := (board.register 1 &&& 0xFE) * size
  let pair1' := board.register 1 * size + size
  let single2 := board.register 2 * size
  let single3 := board.register 3 * size
  let single4 := board.register 4 * size
  let single5 := board.register 5 * size
  let switched := (board.register 6 &&& 0x3F) * programWindowSize
  let middle := (board.register 7 &&& 0x3F) * programWindowSize
  let fixed := programFromEnd board.banks 2
  let last := programFromEnd board.banks 1
  { board with
    characterWindows :=
      if board.characterSwapped then
        #v[single2, single3, single4, single5, pair0, pair0', pair1, pair1']
      else #v[pair0, pair0', pair1, pair1', single2, single3, single4, single5]
    programWindows :=
      if board.programSwapped then #v[fixed, middle, switched, last]
      else #v[switched, middle, fixed, last] }

/-- A write to a register; the two high address bits and the lowest one name it. -/
def writeRegister (board : Mmc3) (address : UInt16) (value : UInt8) : Mmc3 :=
  match wordBit address 14, wordBit address 13, wordBit address 0 with
  | false, false, false =>
    { board with
      target := value &&& 0x07
      programSwapped := bit value 6
      characterSwapped := bit value 7 }
  | false, false, true =>
    { board with registers := board.registers.write board.target.toNat value }.mapWindows
  | false, true, false =>
    { board with mirroring := some (if bit value 0 then .horizontal else .vertical) }
  | false, true, true => board
  | true, false, false => { board with irqReload := value.toUInt16 }
  | true, false, true => { board with irqCounter := 0 }
  | true, true, false => { board with irqEnabled := false, irqPending := false }
  | true, true, true => { board with irqEnabled := true }

/-- The program offset that an address is mapped to. -/
def programOffset (board : Mmc3) (address : UInt16) : Nat :=
  have inside : address.toNat / 0x2000 % 4 < 4 := Nat.mod_lt _ (by decide)
  board.programWindows[address.toNat / 0x2000 % 4].toNat + address.toNat % 0x2000

/-- The character offset that an address is mapped to. -/
def characterOffset (board : Mmc3) (address : UInt16) : Nat :=
  have inside : address.toNat / 0x0400 % 8 < 8 := Nat.mod_lt _ (by decide)
  board.characterWindows[address.toNat / 0x0400 % 8].toNat + address.toNat % 0x0400

/-- What a processor read reaches. -/
def readTarget (board : Mmc3) (address : UInt16) : Option ReadTarget :=
  if inBoardMemory address then some (.value (board.ram.read address.toNat))
  else if inProgramSpace address then some (.program (board.programOffset address))
  else none

/-- What a processor write reaches, and its effect on the registers. -/
def write (board : Mmc3) (address : UInt16) (value : UInt8) : Option WriteTarget × Mmc3 :=
  if inBoardMemory address then
    (some .absorbed, { board with ram := board.ram.write address.toNat value })
  else if inProgramSpace address then (none, board.writeRegister address value)
  else (none, board)

/-- The character offset of a read. -/
def characterRead (board : Mmc3) (address : UInt16) : Option Nat :=
  if inCharacterSpace address then some (board.characterOffset address) else none

/-- The character offset of a write. -/
def characterWrite (board : Mmc3) (address : UInt16) : Option Nat :=
  board.banks.writableCharacter address

/-- Count one line of the picture. An exhausted counter starts anew; a counter at zero after that
raises the interrupt if it may. -/
def countLine (board : Mmc3) : Mmc3 :=
  let irqCounter := if board.irqCounter = 0 then board.irqReload else board.irqCounter - 1
  { board with
    irqCounter
    irqPending := board.irqPending || (irqCounter == 0 && board.irqEnabled) }

/-- Take the pending interrupt back. -/
def acknowledge (board : Mmc3) : Mmc3 := { board with irqPending := false }

open SaveState in
/-- The stored form of one window of character memory. -/
def characterWindowField : Fin 8 → StoredField Mmc3 :=
  .element .doubleWord (·.characterWindows) fun characterWindows board =>
    { board with characterWindows }

open SaveState in
/-- The stored form of one window of program memory. -/
def programWindowField : Fin 4 → StoredField Mmc3 :=
  .element .doubleWord (·.programWindows) fun programWindows board =>
    { board with programWindows }

open SaveState in
/-- The stored form of the board. -/
def layout : Layout Mmc3 := [
    ⟨BankCounts.codec, (·.banks), fun value board => { board with banks := value }⟩,
    ⟨.byte, (·.target), fun value board => { board with target := value &&& 0x07 }⟩,
    ⟨.flag, (·.programSwapped), fun value board => { board with programSwapped := value }⟩,
    ⟨.flag, (·.characterSwapped), fun value board => { board with characterSwapped := value }⟩,
    ⟨Mirroring.choiceCodec, (·.mirroring), fun value board => { board with mirroring := value }⟩,
    ⟨.memory 8, (·.registers), fun value board => { board with registers := value }⟩]
  ++ List.ofFn characterWindowField ++ List.ofFn programWindowField ++ [
    ⟨.flag, (·.irqPending), fun value board => { board with irqPending := value }⟩,
    ⟨.flag, (·.irqEnabled), fun value board => { board with irqEnabled := value }⟩,
    ⟨.word, (·.irqCounter), fun value board => { board with irqCounter := value }⟩,
    ⟨.word, (·.irqReload), fun value board => { board with irqReload := value }⟩,
    ⟨.counted, (·.ram.toList), fun value board =>
      { board with ram := Memory.ofListPadded value }⟩]

end Mmc3

end Nes
