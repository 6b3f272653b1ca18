import Nes.Ppu.VideoMemory

/-!
# The picture chip as the processor sees it

The processor sees eight registers, of which three can be read. Scroll and address are written
in two halves that share one mark for which half comes next; a read of the status takes the mark
back. A read of video memory returns the byte of the access before, except for the palettes,
which answer at once.
-/
namespace Nes.Ppu

variable {κ : Type} [CartridgeSide κ]

/-- Go on to the next address of video memory. -/
@[inline] def advanceAddress (ppu : Ppu) : Ppu :=
  { ppu with scroll := ppu.scroll.advance ppu.control.increment }

/-- Read the status: the flags over stale bits of the read buffer. The blank flag and the mark of
the second write are taken back. -/
def readStatus (ppu : Ppu) : UInt8 × Ppu :=
  ((ppu.status.toByte &&& 0xE0) ||| (ppu.readBuffer &&& 0x1F),
    { ppu with status := { ppu.status with vblank := false }, secondWrite := false })

/-- Read video memory at the current address and go on. -/
@[specialize] def readData (ppu : Ppu) (slot : κ) : UInt8 × Ppu :=
  let address := ppu.scroll.raw &&& 0x3FFF
  let fresh := ppu.readVideo slot address
  let value := if address < 0x3F00 then ppu.readBuffer else fresh
  (value, { ppu with readBuffer := fresh }.advanceAddress)

/-- A processor read of a register; the three low address bits name it. -/
@[specialize] def readRegister (ppu : Ppu) (slot : κ) (address : UInt16) : UInt8 × Ppu :=
  match address.toNat % 8 with
  | 2 => ppu.readStatus
  | 4 => (ppu.oam.read ppu.oamAddress.toNat, ppu)
  | 7 => ppu.readData slot
  | _ => (0, ppu)

/-- Write the control register, which also names the nametable to scroll from. -/
def writeControl (ppu : Ppu) (value : UInt8) : Ppu :=
  let nextScroll := (ppu.nextScroll.setNametableX value.toUInt16).setNametableY
    (value >>> 1).toUInt16
  { ppu with control := ⟨value⟩, nextScroll }

/-- Write sprite memory at its current address and go on. -/
def writeOamData (ppu : Ppu) (value : UInt8) : Ppu :=
  { ppu.storeOam ppu.oamAddress value with oamAddress := ppu.oamAddress + 1 }

/-- Write one half of the scroll: across first, then down. -/
def writeScroll (ppu : Ppu) (value : UInt8) : Ppu :=
  let coarse : UInt16 := (value >>> 3).toUInt16
  let fine : UInt8 := value &&& 0x07
  if ppu.secondWrite then
    let nextScroll := (ppu.nextScroll.setFineY fine.toUInt16).setCoarseY coarse
    { ppu with nextScroll, secondWrite := false }
  else
    { ppu with fineX := fine, nextScroll := ppu.nextScroll.setCoarseX coarse, secondWrite := true }

/-- Write one half of the address: the high byte first, cut to six bits, then the low byte, which
puts the address in use. -/
def writeAddress (ppu : Ppu) (value : UInt8) : Ppu :=
  if ppu.secondWrite then
    let whole : Scroll := ⟨wordOf value (highByte ppu.nextScroll.raw)⟩
    { ppu with nextScroll := whole, scroll := whole, secondWrite := false }
  else
    let whole : Scroll := ⟨wordOf (lowByte ppu.nextScroll.raw) (value &&& 0x3F)⟩
    { ppu with nextScroll := whole, secondWrite := true }

/-- Write video memory at the current address and go on. -/
@[specialize] def writeData (ppu : Ppu) (slot : κ) (value : UInt8) : Ppu × κ :=
  let (ppu, slot) := ppu.writeVideo slot ppu.scroll.raw value
  (ppu.advanceAddress, slot)

/-- A processor write to a register; the three low address bits name it. -/
@[specialize] def writeRegister (ppu : Ppu) (slot : κ) (address : UInt16) (value : UInt8) :
    Ppu × κ :=
  match address.toNat % 8 with
  | 0 => (ppu.writeControl value, slot)
  | 1 => ({ ppu with mask := ⟨value⟩ }, slot)
  | 2 => (ppu, slot)
  | 3 => ({ ppu with oamAddress := value }, slot)
  | 4 => (ppu.writeOamData value, slot)
  | 5 => (ppu.writeScroll value, slot)
  | 6 => (ppu.writeAddress value, slot)
  | _ => ppu.writeData slot value

end Nes.Ppu
