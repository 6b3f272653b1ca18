import Nes.Cartridge.Board

/-!
# Cartridges

A cartridge is a board together with program and character memory. The board maps
addresses to offsets; an offset past the end of a memory comes round to its start, so that no
bank register can reach outside.
-/
namespace Nes

/-- The byte of a memory that an offset comes round to; an empty memory reads as zero. -/
def wrappedGet (memory : ByteArray) (offset : Nat) : UInt8 :=
  if nonempty : 0 < memory.size then memory.get (offset % memory.size) (Nat.mod_lt _ nonempty)
  else 0

/-- The memory after a store at the byte that an offset comes round to. -/
def wrappedSet (memory : ByteArray) (offset : Nat) (value : UInt8) : ByteArray :=
  if nonempty : 0 < memory.size then
    memory.set (offset % memory.size) value (Nat.mod_lt _ nonempty)
  else memory

/-- The two revisions of the image format. -/
inductive ImageRevision where
  /-- Plain iNES. -/
  | plain
  /-- NES 2.0. -/
  | extended
deriving DecidableEq

/-- A cartridge. -/
structure Cartridge where
  /-- The board and its registers. -/
  board : Board
  /-- Program memory. -/
  program : ByteArray
  /-- Character memory. -/
  character : ByteArray
  /-- The board number of the image, which differs from the board's own when a stand-in is
  used. -/
  boardNumber : UInt8
  /-- The bank counts of the image. -/
  banks : BankCounts
  /-- The mirroring wired on the cartridge. -/
  wiring : Mirroring
  /-- The revision of the image. -/
  revision : ImageRevision
  /-- The file that the image was read from. -/
  path : Option String

namespace Cartridge

/-- A cartridge without memory. -/
def blank : Cartridge where
  board := .nrom (.powerOn ⟨0, 0⟩)
  program := .empty
  character := .empty
  boardNumber := 0
  banks := ⟨0, 0⟩
  wiring := .horizontal
  revision := .plain
  path := none

/-- Whether character memory can be written. -/
def characterIsRam (cartridge : Cartridge) : Bool := cartridge.banks.character == 0

/-- The mirroring in force: the board's choice, or else the wiring. -/
def mirroring (cartridge : Cartridge) : Mirroring :=
  cartridge.board.mirroring?.getD cartridge.wiring

/-- A processor read, if the cartridge claims it. -/
def read (cartridge : Cartridge) (address : UInt16) : Option UInt8 :=
  match cartridge.board.readTarget address with
  | some (.program offset) => some (wrappedGet cartridge.program offset)
  | some (.value byte) => some byte
  | none => none

/-- A processor write: whether the cartridge claims it, and the cartridge after it. -/
def write (cartridge : Cartridge) (address : UInt16) (value : UInt8) : Bool × Cartridge :=
  let (target, board) := cartridge.board.write address value
  let cartridge := { cartridge with board }
  match target with
  | some (.program offset) =>
    (true, { cartridge with program := wrappedSet cartridge.program offset value })
  | some .absorbed => (true, cartridge)
  | none => (false, cartridge)

/-- A read by the picture chip, if the cartridge claims it. -/
def readCharacter (cartridge : Cartridge) (address : UInt16) : Option UInt8 :=
  (cartridge.board.characterRead address).map (wrappedGet cartridge.character)

/-- A write by the picture chip: whether the cartridge claims it, and the cartridge after it. -/
def writeCharacter (cartridge : Cartridge) (address : UInt16) (value : UInt8) :
    Bool × Cartridge :=
  match cartridge.board.characterWrite address with
  | some offset =>
    (true, { cartridge with character := wrappedSet cartridge.character offset value })
  | none => (false, cartridge)

/-- Replace the board. -/
@[inline] def mapBoard (cartridge : Cartridge) (change : Board → Board) : Cartridge :=
  { cartridge with board := change cartridge.board }

/-- Return the board to power-on values. -/
def reset (cartridge : Cartridge) : Cartridge := cartridge.mapBoard Board.reset

/-- Whether the cartridge asks for an interrupt. -/
def irqPending (cartridge : Cartridge) : Bool := cartridge.board.irqPending

/-- Take the request for an interrupt back. -/
def acknowledge (cartridge : Cartridge) : Cartridge := cartridge.mapBoard Board.acknowledge

/-- Tell the cartridge that a line of the picture has been drawn. -/
def countLine (cartridge : Cartridge) : Cartridge := cartridge.mapBoard Board.countLine

end Cartridge

end Nes
