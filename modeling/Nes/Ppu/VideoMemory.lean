import Nes.Picture.FrameBuffer
import Nes.Ppu.Basic

/-!
# Video memory

The picture chip has an address space of its own, of fourteen bits. The cartridge may claim any
access. What it does not claim goes to the pattern tables (`0000`), to the nametables (`2000`),
where the mirroring picks the physical table, or to the palettes (`3F00`).
-/
namespace Nes.Ppu

variable {κ : Type} [CartridgeSide κ]

/-- The palette byte that an address reaches. The first bytes of the sprite palettes are those of
the background palettes. -/
def paletteIndex (address : UInt16) : Nat :=
  let index := address.toNat % 32
  if index % 4 = 0 then index % 16 else index

/-- Read video memory. -/
@[specialize] def readVideo (ppu : Ppu) (slot : κ) (address : UInt16) : UInt8 :=
  let address := address &&& 0x3FFF
  match CartridgeSide.readCharacter slot address with
  | some value => value
  | none =>
    if address < 0x2000 then ppu.patterns.read (wordBit address 12) address.toNat
    else if address < 0x3F00 then
      let second := (CartridgeSide.mirroring slot).picksSecond address
      ppu.nametables.read second address.toNat
    else
      let shown : UInt8 := if ppu.mask.greyscale then 0x30 else 0x3F
      ppu.palette.read (paletteIndex address) &&& shown

/-- Write video memory. -/
@[specialize] def writeVideo (ppu : Ppu) (slot : κ) (address : UInt16) (value : UInt8) :
    Ppu × κ :=
  let address := address &&& 0x3FFF
  let (claimed, slot) := CartridgeSide.writeCharacter slot address value
  if claimed then (ppu, slot)
  else if address < 0x2000 then
    ({ ppu with patterns := ppu.patterns.write (wordBit address 12) address.toNat value }, slot)
  else if address < 0x3F00 then
    let second := (CartridgeSide.mirroring slot).picksSecond address
    ({ ppu with nametables := ppu.nametables.write second address.toNat value }, slot)
  else ({ ppu with palette := ppu.palette.write (paletteIndex address) value }, slot)

/-- The colour on the screen of a palette and a colour within it. -/
@[specialize] def screenColor (ppu : Ppu) (slot : κ) (candidate : Candidate) : Color :=
  let place : UInt16 := candidate.palette.toUInt16 <<< 2
  Color.ofEntry (ppu.readVideo slot (0x3F00 + place + candidate.color.toUInt16))

end Nes.Ppu
