import Nes.Word

/-!
# Windows into cartridge memory

A board does not hold program or character memory. It maps an address to an offset, and
the cartridge applies the offset to its memory. The results of such mappings, the bank counts
that they depend on, and the sizes of banks are shared by all boards.
-/
namespace Nes

/-- The size of a bank of program memory as images count it. -/
def programBankSize : Nat := 0x4000

/-- The size of a bank of character memory as images count it. -/
def characterBankSize : Nat := 0x2000

/-- How many banks of each memory a cartridge has. -/
structure BankCounts where
  /-- Banks of program memory. -/
  program : UInt16
  /-- Banks of character memory; zero means writable memory instead. -/
  character : UInt16
deriving DecidableEq

/-- What a processor read of a cartridge reaches. -/
inductive ReadTarget where
  /-- A byte of program memory. -/
  | program (offset : Nat)
  /-- A byte that the board itself supplies. -/
  | value (byte : UInt8)
deriving DecidableEq

/-- What a processor write to a cartridge reaches. -/
inductive WriteTarget where
  /-- A byte of program memory. -/
  | program (offset : Nat)
  /-- Memory on the board itself. -/
  | absorbed
deriving DecidableEq

namespace BankCounts

/-- The last bank of program memory, as a bank register holds it. -/
def lastProgram (banks : BankCounts) : UInt8 := (banks.program.toNat - 1).toUInt8

/-- The offset of fixed program memory: one bank is seen twice, more are seen as two. -/
def fixedProgram (banks : BankCounts) (address : UInt16) : Nat :=
  if banks.program > 1 then address.toNat % 0x8000 else address.toNat % 0x4000

/-- The offset of a write to character memory without bank switching. Only cartridges without
character banks have memory that can be written. -/
def writableCharacter (banks : BankCounts) (address : UInt16) : Option Nat :=
  if address < 0x2000 ∧ banks.character = 0 then some address.toNat else none

end BankCounts

/-- Whether an address lies in the part of the processor's space that shows program memory. -/
@[inline] def inProgramSpace (address : UInt16) : Bool := address ≥ 0x8000

/-- Whether an address lies where boards may have memory of their own. -/
@[inline] def inBoardMemory (address : UInt16) : Bool := 0x6000 ≤ address && address < 0x8000

/-- Memory on the board ends where program memory begins. -/
theorem inBoardMemory_of_program {address : UInt16} (program : inProgramSpace address = true) :
    inBoardMemory address = false := by
  have low : ¬address < 0x8000 := UInt16.not_lt.2 (of_decide_eq_true program)
  rw [inBoardMemory, decide_eq_false low, Bool.and_false]

/-- Whether an address lies in the part of the picture chip's space that shows character memory. -/
@[inline] def inCharacterSpace (address : UInt16) : Bool := address < 0x2000

end Nes
