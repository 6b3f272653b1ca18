import Nes.Cartridge.Window
import Nes.SaveState.Layout

/-!
# Boards of discrete logic

Four boards without a controller chip. One has no registers at all; the others have a latch that
takes bank numbers from the byte of any write to program memory.
-/
namespace Nes

/-- Fixed program and character memory (board 0). Writes reach program memory itself. -/
structure Nrom where
  /-- Bank counts. -/
  banks : BankCounts
deriving DecidableEq

/-- A switched and a fixed half of program memory (board 2). -/
structure Uxrom where
  /-- Bank counts. -/
  banks : BankCounts
  /-- The bank at `8000`. -/
  low : UInt8
  /-- The bank at `C000`. -/
  high : UInt8
deriving DecidableEq

/-- Switched character memory (board 3). -/
structure Cnrom where
  /-- Bank counts. -/
  banks : BankCounts
  /-- The bank of character memory. -/
  character : UInt8
deriving DecidableEq

/-- Program and character memory switched together (board 66). -/
structure Gxrom where
  /-- Bank counts. -/
  banks : BankCounts
  /-- The bank of program memory, 32 KiB in size. -/
  program : UInt8
  /-- The bank of character memory. -/
  character : UInt8
deriving DecidableEq

open SaveState

/-- The stored form of bank counts. -/
def BankCounts.codec : Codec BankCounts :=
  (Codec.word.pair Codec.word).map (fun counts => ⟨counts.1, counts.2⟩)
    fun banks => (banks.program, banks.character)

namespace Nrom

/-- The board at power-on. -/
def powerOn (banks : BankCounts) : Nrom := ⟨banks⟩

/-- What a processor read reaches. -/
def readTarget (board : Nrom) (address : UInt16) : Option ReadTarget :=
  if inProgramSpace address then some (.program (board.banks.fixedProgram address)) else none

/-- What a processor write reaches. -/
def write (board : Nrom) (address : UInt16) : Option WriteTarget × Nrom :=
  (if inProgramSpace address then some (.program (board.banks.fixedProgram address)) else none,
    board)

/-- The character offset of a read. -/
def characterRead (_ : Nrom) (address : UInt16) : Option Nat :=
  if inCharacterSpace address then some address.toNat else none

/-- The character offset of a write. -/
def characterWrite (board : Nrom) (address : UInt16) : Option Nat :=
  board.banks.writableCharacter address

/-- The stored form of the board. -/
def layout : Layout Nrom :=
  [⟨BankCounts.codec, (·.banks), fun value board => { board with banks := value }⟩]

end Nrom

namespace Uxrom

/-- The board at power-on: the first bank low, the last bank high. -/
def powerOn (banks : BankCounts) : Uxrom := ⟨banks, 0, banks.lastProgram⟩

/-- Return the bank registers to power-on values. -/
def reset (board : Uxrom) : Uxrom := powerOn board.banks

/-- What a processor read reaches. -/
def readTarget (board : Uxrom) (address : UInt16) : Option ReadTarget :=
  if inProgramSpace address then
    let bank := if address < 0xC000 then board.low else board.high
    some (.program (bank.toNat * 0x4000 + address.toNat % 0x4000))
  else none

/-- A write to program memory selects the low bank. -/
def write (board : Uxrom) (address : UInt16) (value : UInt8) : Option WriteTarget × Uxrom :=
  (none, if inProgramSpace address then { board with low := value &&& 0x0F } else board)

/-- The character offset of a read. -/
def characterRead (_ : Uxrom) (address : UInt16) : Option Nat :=
  if inCharacterSpace address then some address.toNat else none

/-- The character offset of a write. -/
def characterWrite (board : Uxrom) (address : UInt16) : Option Nat :=
  board.banks.writableCharacter address

/-- The stored form of the board. -/
def layout : Layout Uxrom := [
  ⟨BankCounts.codec, (·.banks), fun value board => { board with banks := value }⟩,
  ⟨.byte, (·.low), fun value board => { board with low := value }⟩,
  ⟨.byte, (·.high), fun value board => { board with high := value }⟩]

end Uxrom

namespace Cnrom

/-- The board at power-on. -/
def powerOn (banks : BankCounts) : Cnrom := ⟨banks, 0⟩

/-- Return the bank register to its power-on value. -/
def reset (board : Cnrom) : Cnrom := powerOn board.banks

/-- What a processor read reaches. -/
def readTarget (board : Cnrom) (address : UInt16) : Option ReadTarget :=
  if inProgramSpace address then some (.program (board.banks.fixedProgram address)) else none

/-- A write to program memory selects the character bank. -/
def write (board : Cnrom) (address : UInt16) (value : UInt8) : Option WriteTarget × Cnrom :=
  (none, if inProgramSpace address then { board with character := value &&& 0x03 } else board)

/-- The character offset of a read. -/
def characterRead (board : Cnrom) (address : UInt16) : Option Nat :=
  if inCharacterSpace address then
    some (board.character.toNat * characterBankSize + address.toNat)
  else none

/-- Character memory of this board is never written. -/
def characterWrite (_ : Cnrom) (_ : UInt16) : Option Nat := none

/-- The stored form of the board. -/
def layout : Layout Cnrom := [
  ⟨BankCounts.codec, (·.banks), fun value board => { board with banks := value }⟩,
  ⟨.byte, (·.character), fun value board => { board with character := value }⟩]

end Cnrom

namespace Gxrom

/-- The board at power-on. -/
def powerOn (banks : BankCounts) : Gxrom := ⟨banks, 0, 0⟩

/-- Return the bank registers to power-on values. -/
def reset (board : Gxrom) : Gxrom := powerOn board.banks

/-- What a processor read reaches. -/
def readTarget (board : Gxrom) (address : UInt16) : Option ReadTarget :=
  if inProgramSpace address then
    some (.program (board.program.toNat * 0x8000 + address.toNat % 0x8000))
  else none

/-- A write to program memory selects both banks. -/
def write (board : Gxrom) (address : UInt16) (value : UInt8) : Option WriteTarget × Gxrom :=
  (none,
    if inProgramSpace address then
      { board with character := value &&& 0x03, program := (value &&& 0x30) >>> 4 }
    else board)

/-- The character offset of a read. -/
def characterRead (board : Gxrom) (address : UInt16) : Option Nat :=
  if inCharacterSpace address then
    some (board.character.toNat * characterBankSize + address.toNat)
  else none

/-- Character memory of this board is never written. -/
def characterWrite (_ : Gxrom) (_ : UInt16) : Option Nat := none

/-- The stored form of the board. -/
def layout : Layout Gxrom := [
  ⟨BankCounts.codec, (·.banks), fun value board => { board with banks := value }⟩,
  ⟨.byte, (·.character), fun value board => { board with character := value }⟩,
  ⟨.byte, (·.program), fun value board => { board with program := value }⟩]

end Gxrom

end Nes
