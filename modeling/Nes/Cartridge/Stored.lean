import Nes.Cartridge.Basic
import Nes.Text.Utf8

/-!
# The stored form of cartridges

A state holds the whole cartridge, memories included, so that it can be restored on any machine.
The board's registers come last; their form depends on the board number before them. A cartridge
is read whole or not at all.
-/
namespace Nes.Cartridge

open SaveState

/-- What is stored of a cartridge before the registers of its board. -/
structure StoredHead where
  /-- The file that the image was read from, as bytes. -/
  path : List UInt8
  /-- The mirroring wired on the cartridge. -/
  wiring : Mirroring
  /-- The number of the board in use. -/
  boardNumber : UInt8
  /-- The bank counts of the image. -/
  banks : BankCounts
  /-- Program memory. -/
  program : ByteArray
  /-- Character memory. -/
  character : ByteArray

namespace StoredHead

/-- A head before any field is read. -/
def blank : StoredHead := ⟨[], .horizontal, 0, ⟨0, 0⟩, .empty, .empty⟩

/-- The stored form of the head. -/
def layout : Layout StoredHead := [
  ⟨.counted, (·.path), fun value head => { head with path := value }⟩,
  ⟨Mirroring.codec, (·.wiring), fun value head => { head with wiring := value }⟩,
  ⟨.byte, (·.boardNumber), fun value head => { head with boardNumber := value }⟩,
  ⟨BankCounts.codec, (·.banks), fun value head => { head with banks := value }⟩,
  ⟨.countedArray, (·.program), fun value head => { head with program := value }⟩,
  ⟨.countedArray, (·.character), fun value head => { head with character := value }⟩]

end StoredHead

/-- The head of a cartridge. The number stored is that of the board in use. -/
def storedHead (cartridge : Cartridge) : StoredHead where
  path := (cartridge.path.getD "").toUTF8.data.toList
  wiring := cartridge.wiring
  boardNumber := cartridge.board.number
  banks := cartridge.banks
  program := cartridge.program
  character := cartridge.character

/-- The bytes of a cartridge. -/
def encode (cartridge : Cartridge) : List UInt8 :=
  StoredHead.layout.encode cartridge.storedHead ++ cartridge.board.encode

/-- The board that a head announces: the one at hand if it is of that kind, or else a new one. -/
def boardFor? (board : Board) (head : StoredHead) : Option Board :=
  if board.number = head.boardNumber then some board
  else Board.ofNumber? head.boardNumber head.banks

/-- Read a cartridge in place of another one. -/
def decode (cartridge : Cartridge) : Reader Cartridge := fun bytes =>
  (StoredHead.layout.decode .blank bytes).andThen fun head rest =>
    match boardFor? cartridge.board head with
    | none => (.error (.unsupportedBoard head.boardNumber), rest)
    | some board => (board.decode rest).map fun board =>
      { board
        program := head.program
        character := head.character
        boardNumber := head.boardNumber
        banks := head.banks
        wiring := head.wiring
        revision := cartridge.revision
        path := if head.path.isEmpty then none else some (Utf8.decodeLossy head.path) }

end Nes.Cartridge
