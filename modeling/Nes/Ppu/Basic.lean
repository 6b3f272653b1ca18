import Nes.Ppu.CartridgeSide
import Nes.Ppu.Flags
import Nes.Ppu.Scroll
import Nes.Ppu.Sprites
import Nes.SaveState.Layout

/-!
# The picture chip

The state of the picture chip (PPU): its memories, its registers, the place in the frame, and the
two pipelines that make pixels.
-/
namespace Nes

/-- The picture chip. -/
structure Ppu where
  /-- The two physical nametables. -/
  nametables : MemoryPair 0x400
  /-- The two pattern tables used where the cartridge has none. -/
  patterns : MemoryPair 0x1000
  /-- The palettes. -/
  palette : Memory 32
  /-- Sprite memory. -/
  oam : Memory 256
  /-- The address in sprite memory that the next access reaches. -/
  oamAddress : UInt8
  /-- The control register. -/
  control : Ppu.Control
  /-- The mask register. -/
  mask : Ppu.Mask
  /-- The status register. -/
  status : Ppu.Status
  /-- The scroll word in use (`v`). -/
  scroll : Ppu.Scroll
  /-- The scroll word being written (`t`). -/
  nextScroll : Ppu.Scroll
  /-- The pixel within a tile at the left edge. -/
  fineX : UInt8
  /-- The next write to a register of two bytes is the second. -/
  secondWrite : Bool
  /-- The byte that the next read of video memory returns. -/
  readBuffer : UInt8
  /-- The line, -1 before the picture and up to 260 after it. -/
  line : Int16
  /-- The dot within the line. -/
  dot : Int16
  /-- The frame is one of those that leave out a dot. -/
  oddFrame : Bool
  /-- The background pipeline. -/
  background : Ppu.Background
  /-- The sprite pipeline. -/
  sprites : Ppu.Sprites
  /-- An interrupt has been asked for. -/
  nmiPending : Bool
  /-- A frame has ended. -/
  frameComplete : Bool
  /-- Pixels of this frame are drawn. -/
  drawsFrame : Bool
deriving DecidableEq

namespace Ppu

/-- The picture chip at power-on. -/
def powerOn : Ppu where
  nametables := .zeros _
  patterns := .zeros _
  palette := .zeros _
  oam := .zeros _
  oamAddress := 0
  control := ⟨0⟩
  mask := ⟨0⟩
  status := .clear
  scroll := ⟨0⟩
  nextScroll := ⟨0⟩
  fineX := 0
  secondWrite := false
  readBuffer := 0
  line := 0
  dot := 0
  oddFrame := false
  background := .powerOn
  sprites := .powerOn
  nmiPending := false
  frameComplete := false
  drawsFrame := true

/-- Return registers, place and pipelines to power-on values. The memories stay, and so does the
choice whether to draw. -/
def reset (ppu : Ppu) : Ppu :=
  { powerOn with
    nametables := ppu.nametables
    patterns := ppu.patterns
    palette := ppu.palette
    oam := ppu.oam
    oamAddress := ppu.oamAddress
    drawsFrame := ppu.drawsFrame }

/-- Tell whether a frame has ended, once. -/
def takeFrameComplete (ppu : Ppu) : Bool × Ppu :=
  (ppu.frameComplete, { ppu with frameComplete := false })

/-- Tell whether an interrupt has been asked for, once. -/
def takeNmi (ppu : Ppu) : Bool × Ppu := (ppu.nmiPending, { ppu with nmiPending := false })

/-- Store a byte in sprite memory. -/
@[inline] def storeOam (ppu : Ppu) (index value : UInt8) : Ppu :=
  { ppu with oam := ppu.oam.write index.toNat value }

/-- How many dots are left until a frame ends, not counting that one may be left out. Places
outside the frame, which only a stored state can name, count as the 16-bit counters run through
them. -/
def dotsToFrameEnd (ppu : Ppu) : Nat :=
  let dot := ppu.dot.toInt
  let line := ppu.line.toInt
  let inLine := if dot < 340 then 341 - dot else if dot < 32767 then 1 else 33110
  let lines := if line < 260 then 260 - line else if line < 32767 then 0 else 33029
  (inLine + 341 * lines).toNat

open SaveState in
/-- The stored form of the picture chip. -/
def layout : Layout Ppu := [
  ⟨.flag, (·.nmiPending), fun value ppu => { ppu with nmiPending := value }⟩,
  ⟨.flag, (·.frameComplete), fun value ppu => { ppu with frameComplete := value }⟩,
  ⟨.memory _, (·.nametables.first), fun value ppu =>
    { ppu with nametables := ⟨value, ppu.nametables.second⟩ }⟩,
  ⟨.memory _, (·.nametables.second), fun value ppu =>
    { ppu with nametables := ⟨ppu.nametables.first, value⟩ }⟩,
  ⟨.memory _, (·.patterns.first), fun value ppu =>
    { ppu with patterns := ⟨value, ppu.patterns.second⟩ }⟩,
  ⟨.memory _, (·.patterns.second), fun value ppu =>
    { ppu with patterns := ⟨ppu.patterns.first, value⟩ }⟩,
  ⟨.memory _, (·.palette), fun value ppu => { ppu with palette := value }⟩,
  ⟨Codec.byte.map Status.ofByte Status.toByte, (·.status), fun value ppu =>
    { ppu with status := value }⟩,
  ⟨.byte, (·.mask.byte), fun value ppu => { ppu with mask := ⟨value⟩ }⟩,
  ⟨.byte, (·.control.byte), fun value ppu => { ppu with control := ⟨value⟩ }⟩,
  ⟨.word, (·.scroll.raw), fun value ppu => { ppu with scroll := ⟨value⟩ }⟩,
  ⟨.word, (·.nextScroll.raw), fun value ppu => { ppu with nextScroll := ⟨value⟩ }⟩,
  ⟨.byte, (·.fineX), fun value ppu => { ppu with fineX := value }⟩,
  ⟨.flag, (·.secondWrite), fun value ppu => { ppu with secondWrite := value }⟩,
  ⟨.byte, (·.readBuffer), fun value ppu => { ppu with readBuffer := value }⟩,
  ⟨.signedWord, (·.line), fun value ppu => { ppu with line := value }⟩,
  ⟨.signedWord, (·.dot), fun value ppu => { ppu with dot := value }⟩,
  ⟨.flag, (·.oddFrame), fun value ppu => { ppu with oddFrame := value }⟩,
  ⟨Background.codec, (·.background), fun value ppu => { ppu with background := value }⟩,
  ⟨.memory _, (·.oam), fun value ppu => { ppu with oam := value }⟩,
  ⟨.byte, (·.oamAddress), fun value ppu => { ppu with oamAddress := value }⟩,
  ⟨OamEntry.codec.vector 8, (·.sprites.slots), fun value ppu =>
    { ppu with sprites := { ppu.sprites with slots := value } }⟩,
  ⟨.byte, (·.sprites.count), fun value ppu =>
    { ppu with sprites := { ppu.sprites with count := value } }⟩,
  ⟨.memory 8, (⟨·.sprites.patternLow⟩), fun value ppu =>
    { ppu with sprites := { ppu.sprites with patternLow := value.cells } }⟩,
  ⟨.memory 8, (⟨·.sprites.patternHigh⟩), fun value ppu =>
    { ppu with sprites := { ppu.sprites with patternHigh := value.cells } }⟩,
  ⟨.flag, (·.sprites.zeroSelected), fun value ppu =>
    { ppu with sprites := { ppu.sprites with zeroSelected := value } }⟩,
  ⟨.flag, (·.sprites.zeroShown), fun value ppu =>
    { ppu with sprites := { ppu.sprites with zeroShown := value } }⟩]

end Ppu

end Nes
