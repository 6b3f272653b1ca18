import Nes.Cartridge.Basic

/-!
# Cartridge images

An image is a header of sixteen bytes, an optional trainer of 512 bytes that is skipped, program
memory and character memory. Bytes after those are not looked at. `Cartridge.ofImage` reads an
image; a board number that is not supported comes back as an error that carries the same image on
the plainest board, for callers that want to try it anyway.
-/
namespace Nes

/-- The size of the header. -/
def imageHeaderSize : Nat := 16

/-- The size of a trainer. -/
def imageTrainerSize : Nat := 512

/-- The four bytes that every image begins with. -/
def imageMark : List UInt8 := [0x4E, 0x45, 0x53, 0x1A]

/-- Why bytes are not the image of a supported cartridge. -/
inductive ImageError where
  /-- The bytes end before what the header promises. -/
  | truncated (expected actual : Nat)
  /-- The bytes do not begin with the mark. -/
  | missingMark
  /-- The board is not supported; the image is wired to a stand-in. -/
  | unsupportedBoard (number : UInt8) (standIn : Cartridge)

/-- The text shown for an error. -/
def ImageError.message : ImageError → String
  | truncated expected actual =>
    s!"ROM image truncated: expected {expected} bytes, found {actual}"
  | missingMark => "invalid iNES header magic (expected NES<1A>)"
  | unsupportedBoard number _ => s!"mapper {number.toNat} is not supported"

/-- What a header says. -/
structure ImageHeader where
  /-- The revision of the format. -/
  revision : ImageRevision
  /-- The bank counts. -/
  banks : BankCounts
  /-- The board number. -/
  boardNumber : UInt8
  /-- The mirroring wired on the cartridge. -/
  wiring : Mirroring
  /-- A trainer stands before program memory. -/
  hasTrainer : Bool
deriving DecidableEq

namespace ImageHeader

/-- The bank counts in bytes 4, 5 and, in the extended revision, 8. -/
def bankCounts (revision : ImageRevision) (header : Memory 16) : BankCounts :=
  let program := header.read 4
  let character := header.read 5
  let high := header.read 8
  match revision with
  | .plain => ⟨program.toUInt16, character.toUInt16⟩
  | .extended => ⟨wordOf program (high &&& 0x07), wordOf character (high &&& 0x38)⟩

/-- Read a header whose mark is in place. -/
def ofMemory (header : Memory 16) : ImageHeader :=
  let flags6 := header.read 6
  let flags7 := header.read 7
  let revisionBits : UInt8 := flags7 &&& 0x0C
  let revision := if revisionBits = 0x08 then ImageRevision.extended else .plain
  let lowDigit : UInt8 := flags6 >>> 4
  { revision
    banks := bankCounts revision header
    boardNumber := (flags7 &&& 0xF0) ||| lowDigit
    wiring := if bit flags6 0 then .vertical else .horizontal
    hasTrainer := bit flags6 2 }

/-- Where program memory begins in the image. -/
def programStart (header : ImageHeader) : Nat :=
  imageHeaderSize + if header.hasTrainer then imageTrainerSize else 0

/-- The size of program memory. -/
def programSize (header : ImageHeader) : Nat := header.banks.program.toNat * programBankSize

/-- The size of character memory in the image. -/
def characterSize (header : ImageHeader) : Nat :=
  header.banks.character.toNat * characterBankSize

/-- The number of bytes that the image must have. -/
def imageSize (header : ImageHeader) : Nat :=
  header.programStart + header.programSize + header.characterSize

end ImageHeader

namespace Cartridge

/-- The first bytes of an image as a memory, zeros standing for missing ones. -/
def headerMemory (image : ByteArray) : Memory 16 :=
  Memory.ofFn fun index => if inside : index.val < image.size then image.get index.val inside else 0

/-- The cartridge that a header and an image describe, on a given board. -/
def assemble (header : ImageHeader) (image : ByteArray) (board : Board) : Cartridge :=
  let programEnd := header.programStart + header.programSize
  { board
    program := image.extract header.programStart programEnd
    character :=
      if header.banks.character = 0 then ⟨(List.replicate characterBankSize 0).toArray⟩
      else image.extract programEnd (programEnd + header.characterSize)
    boardNumber := header.boardNumber
    banks := header.banks
    wiring := header.wiring
    revision := header.revision
    path := none }

/-- Read an image. -/
def ofImage (image : ByteArray) : Except ImageError Cartridge :=
  let memory := headerMemory image
  let header := ImageHeader.ofMemory memory
  if image.size < imageHeaderSize then .error (.truncated imageHeaderSize image.size)
  else if memory.toList.take 4 ≠ imageMark then .error .missingMark
  else if image.size < header.imageSize then .error (.truncated header.imageSize image.size)
  else match Board.ofNumber? header.boardNumber header.banks with
    | some board => .ok (assemble header image board)
    | none =>
      .error (.unsupportedBoard header.boardNumber
        (assemble header image (.nrom (.powerOn header.banks))))

/-- Note the file that an image was read from. -/
def withPath (path : String) : Except ImageError Cartridge → Except ImageError Cartridge
  | .ok cartridge => .ok { cartridge with path := some path }
  | .error (.unsupportedBoard number standIn) =>
    .error (.unsupportedBoard number { standIn with path := some path })
  | .error error => .error error

end Cartridge

end Nes
