import Nes.Cartridge.Mmc1
import Nes.Cartridge.Mmc3

/-!
# Boards

The closed set of boards that a cartridge may carry. Every operation of a board is here once for
all of them.
-/
namespace Nes

/-- A cartridge board with its registers. -/
inductive Board where
  | nrom (board : Nrom)
  | mmc1 (board : Mmc1)
  | uxrom (board : Uxrom)
  | cnrom (board : Cnrom)
  | mmc3 (board : Mmc3)
  | gxrom (board : Gxrom)
deriving DecidableEq

namespace Board

/-- The board of a number at power-on, if there is one. -/
def ofNumber? (number : UInt8) (banks : BankCounts) : Option Board :=
  if number = 0 then some (nrom (.powerOn banks))
  else if number = 1 then some (mmc1 (.powerOn banks))
  else if number = 2 then some (uxrom (.powerOn banks))
  else if number = 3 then some (cnrom (.powerOn banks))
  else if number = 4 then some (mmc3 (.powerOn banks))
  else if number = 66 then some (gxrom (.powerOn banks))
  else none

/-- The number of a board in image headers. -/
def number : Board → UInt8
  | nrom _ => 0
  | mmc1 _ => 1
  | uxrom _ => 2
  | cnrom _ => 3
  | mmc3 _ => 4
  | gxrom _ => 66

/-- What a processor read reaches, if the board claims it. -/
def readTarget (board : Board) (address : UInt16) : Option ReadTarget :=
  match board with
  | nrom board => board.readTarget address
  | mmc1 board => board.readTarget address
  | uxrom board => board.readTarget address
  | cnrom board => board.readTarget address
  | mmc3 board => board.readTarget address
  | gxrom board => board.readTarget address

/-- What a processor write reaches, if the board claims it, and its effect on the registers,
which a write may have without being claimed. -/
def write (board : Board) (address : UInt16) (value : UInt8) : Option WriteTarget × Board :=
  match board with
  | nrom board => let (target, board) := board.write address; (target, nrom board)
  | mmc1 board => let (target, board) := board.write address value; (target, mmc1 board)
  | uxrom board => let (target, board) := board.write address value; (target, uxrom board)
  | cnrom board => let (target, board) := board.write address value; (target, cnrom board)
  | mmc3 board => let (target, board) := board.write address value; (target, mmc3 board)
  | gxrom board => let (target, board) := board.write address value; (target, gxrom board)

/-- The character offset of a read, if the board claims it. -/
def characterRead (board : Board) (address : UInt16) : Option Nat :=
  match board with
  | nrom board => board.characterRead address
  | mmc1 board => board.characterRead address
  | uxrom board => board.characterRead address
  | cnrom board => board.characterRead address
  | mmc3 board => board.characterRead address
  | gxrom board => board.characterRead address

/-- The character offset of a write, if the board claims it. -/
def characterWrite (board : Board) (address : UInt16) : Option Nat :=
  match board with
  | nrom board => board.characterWrite address
  | mmc1 board => board.characterWrite address
  | uxrom board => board.characterWrite address
  | cnrom board => board.characterWrite address
  | mmc3 board => board.characterWrite address
  | gxrom board => board.characterWrite address

/-- Return the registers to power-on values. -/
def reset : Board → Board
  | nrom board => nrom board
  | mmc1 board => mmc1 board.reset
  | uxrom board => uxrom board.reset
  | cnrom board => cnrom board.reset
  | mmc3 board => mmc3 board.reset
  | gxrom board => gxrom board.reset

/-- The mirroring that the board chooses, if it does not leave that to the wiring. -/
def mirroring? : Board → Option Mirroring
  | mmc1 board => board.mirroring
  | mmc3 board => board.mirroring
  | _ => none

/-- Whether the board asks for an interrupt. -/
def irqPending : Board → Bool
  | mmc3 board => board.irqPending
  | _ => false

/-- Take the board's request for an interrupt back. -/
def acknowledge : Board → Board
  | mmc3 board => mmc3 board.acknowledge
  | board => board

/-- Tell the board that a line of the picture has been drawn. -/
def countLine : Board → Board
  | mmc3 board => mmc3 board.countLine
  | board => board

/-- The stored form of a board; its number is stored elsewhere. -/
def encode : Board → List UInt8
  | nrom board => Nrom.layout.encode board
  | mmc1 board => Mmc1.layout.encode board
  | uxrom board => Uxrom.layout.encode board
  | cnrom board => Cnrom.layout.encode board
  | mmc3 board => Mmc3.layout.encode board
  | gxrom board => Gxrom.layout.encode board

/-- Load the registers of a board whose kind is known, field by field. -/
def load (board : Board) (bytes : List UInt8) : SaveState.Loaded Board :=
  match board with
  | nrom board => (Nrom.layout.load board bytes).map nrom
  | mmc1 board => (Mmc1.layout.load board bytes).map mmc1
  | uxrom board => (Uxrom.layout.load board bytes).map uxrom
  | cnrom board => (Cnrom.layout.load board bytes).map cnrom
  | mmc3 board => (Mmc3.layout.load board bytes).map mmc3
  | gxrom board => (Gxrom.layout.load board bytes).map gxrom

/-- Load the registers of a board whose kind is known, all of them or none. -/
def decode (board : Board) : SaveState.Reader Board := fun bytes => (board.load bytes).whole

end Board

end Nes
