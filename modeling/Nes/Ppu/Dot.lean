import Nes.Ppu.VideoMemory

/-!
# Dots

The picture chip is clocked once for each dot. A frame has 262 lines of 341 dots, counted from
line -1. On the lines from -1 to 239 the pipelines run; each of the dots 1 to 256 of the lines
from 0 to 239 makes a pixel; line 241 begins the vertical blank. The phases of a dot are functions
of their own, in the order in which they happen.
-/
namespace Nes.Ppu

variable {κ : Type} [CartridgeSide κ]

/-- Whether a line runs the pipelines. -/
@[inline] def rendersLine (ppu : Ppu) : Bool := -1 ≤ ppu.line && ppu.line < 240

/-- Whether a line belongs to the picture. -/
@[inline] def visibleLine (ppu : Ppu) : Bool := 0 ≤ ppu.line && ppu.line < 240

/-- Whether the chip is at a place of the frame. -/
@[inline] def isAt (ppu : Ppu) (line dot : Int16) : Bool := ppu.line == line && ppu.dot == dot

/-- Whether the dot lies in a half-open range. -/
@[inline] def dotWithin (ppu : Ppu) (first last : Int16) : Bool :=
  first ≤ ppu.dot && ppu.dot < last

/-- Odd frames leave out the first dot of the picture while anything is shown. -/
def leaveOutDot (ppu : Ppu) : Ppu :=
  if ppu.isAt 0 0 && ppu.oddFrame && ppu.mask.rendering then { ppu with dot := 1 } else ppu

/-- The flags of the last frame end, and so do its sprites, just before the picture. -/
def clearFlags (ppu : Ppu) : Ppu :=
  if ppu.isAt (-1) 1 then
    { ppu with
      status := { ppu.status with vblank := false, overflow := false, zeroHit := false }
      sprites := ppu.sprites.deselect }
  else ppu

/-- Move the shift registers of both pipelines by one dot. -/
def shiftPipelines (ppu : Ppu) : Ppu :=
  let ppu := if ppu.mask.showBackground then { ppu with background := ppu.background.shift }
    else ppu
  if ppu.mask.showSprites && ppu.dotWithin 1 258 then
    { ppu with sprites := ppu.sprites.shift }
  else ppu

/-- Fetch the number of the next tile. -/
@[specialize] def fetchTile (ppu : Ppu) (slot : κ) : Ppu :=
  let tile := ppu.readVideo slot ppu.scroll.tileAddress
  { ppu with background := { ppu.background with nextTile := tile } }

/-- Fetch the palette of the next tile. -/
@[specialize] def fetchAttribute (ppu : Ppu) (slot : κ) : Ppu :=
  let byte := ppu.readVideo slot ppu.scroll.attributeAddress
  { ppu with background := { ppu.background with nextAttribute := ppu.scroll.attributeOf byte } }

/-- The address of the low plane of the next tile, on the current line of tiles. -/
def patternAddress (ppu : Ppu) : UInt16 :=
  let table : UInt16 := if ppu.control.backgroundTable then 0x1000 else 0
  let tile : UInt16 := ppu.background.nextTile.toUInt16 <<< 4
  table + tile + ppu.scroll.fineY

/-- Fetch the low plane of the next tile. -/
@[specialize] def fetchLow (ppu : Ppu) (slot : κ) : Ppu :=
  let plane := ppu.readVideo slot ppu.patternAddress
  { ppu with background := { ppu.background with nextLow := plane } }

/-- Fetch the high plane of the next tile. -/
@[specialize] def fetchHigh (ppu : Ppu) (slot : κ) : Ppu :=
  let plane := ppu.readVideo slot (ppu.patternAddress + 8)
  { ppu with background := { ppu.background with nextHigh := plane } }

/-- Put the fetched tile into the shift registers. -/
def loadBackground (ppu : Ppu) : Ppu := { ppu with background := ppu.background.load }

/-- Change the scroll word while anything is shown. -/
@[inline] def moveScroll (ppu : Ppu) (change : Scroll → Scroll) : Ppu :=
  if ppu.mask.rendering then { ppu with scroll := change ppu.scroll } else ppu

/-- The step of the background pipeline that falls to the current dot: eight dots fetch a tile. -/
@[specialize] def fetchBackground (ppu : Ppu) (slot : κ) : Ppu :=
  match (ppu.dot - 1).toNatClampNeg % 8 with
  | 0 => ppu.loadBackground.fetchTile slot
  | 2 => ppu.fetchAttribute slot
  | 4 => ppu.fetchLow slot
  | 6 => ppu.fetchHigh slot
  | 7 => ppu.moveScroll Scroll.nextColumn
  | _ => ppu

/-- Shift and fetch on the dots that draw, and on those that fetch the first two tiles of the
next line. -/
@[specialize] def runPipelines (ppu : Ppu) (slot : κ) : Ppu :=
  if ppu.dotWithin 2 258 || ppu.dotWithin 321 338 then
    ppu.shiftPipelines.fetchBackground slot
  else ppu

/-- Move the scroll word to the next line at the end of a line, and back to the top before the
picture. Two more tile numbers are fetched without use. -/
@[specialize] def moveToNextLine (ppu : Ppu) (slot : κ) : Ppu :=
  let ppu := if ppu.dot == 256 then ppu.moveScroll Scroll.nextLine else ppu
  let ppu := if ppu.dot == 257 then
      ppu.loadBackground.moveScroll (·.copyHorizontal ppu.nextScroll)
    else ppu
  let ppu := if ppu.dot == 338 || ppu.dot == 340 then ppu.fetchTile slot else ppu
  if ppu.line == -1 && ppu.dotWithin 280 305 then
    ppu.moveScroll (·.copyVertical ppu.nextScroll)
  else ppu

/-- Select the sprites of the next line. -/
def selectSprites (ppu : Ppu) : Ppu :=
  let height := ppu.control.spriteHeight
  { ppu with
    sprites := ppu.sprites.select ppu.oam ppu.line height
    status := { ppu.status with
      overflow := ppu.status.overflow || Sprites.overflows ppu.oam ppu.line height } }

/-- One plane of the pattern of a slot. -/
@[specialize] def spritePlane (ppu : Ppu) (slot : κ) (entry : OamEntry) (offset : UInt16) :
    UInt8 :=
  let plane := ppu.readVideo slot (entry.patternAddress ppu.control ppu.line + offset)
  if entry.flipsHorizontally then reverseBits plane else plane

/-- Fetch the patterns of the selected sprites. -/
@[specialize] def fetchSprites (ppu : Ppu) (slot : κ) : Ppu :=
  let sprites := ppu.sprites
  let fetched (offset : UInt16) (planes : Vector UInt8 8) : Vector UInt8 8 :=
    Vector.ofFn fun index =>
      if sprites.uses index then ppu.spritePlane slot (sprites.slots.get index) offset
      else planes.get index
  { ppu with
    sprites := { sprites with
      patternLow := fetched 0 sprites.patternLow
      patternHigh := fetched 8 sprites.patternHigh } }

/-- The end of a line on the sprite side. -/
@[specialize] def runSprites (ppu : Ppu) (slot : κ) : Ppu :=
  let ppu := if ppu.dot == 257 && 0 ≤ ppu.line then ppu.selectSprites else ppu
  if ppu.dot == 340 then ppu.fetchSprites slot else ppu

/-- The work of a dot on a line that runs the pipelines. -/
@[specialize] def renderDot (ppu : Ppu) (slot : κ) : Ppu :=
  ((ppu.leaveOutDot.clearFlags.runPipelines slot).moveToNextLine slot).runSprites slot

/-- Begin the vertical blank, and ask for an interrupt if that is enabled. -/
def beginBlank (ppu : Ppu) : Ppu :=
  if ppu.isAt 241 1 then
    { ppu with
      status := { ppu.status with vblank := true }
      nmiPending := ppu.nmiPending || ppu.control.nmiEnabled }
  else ppu

/-- The background candidate of the current dot. -/
def backgroundCandidate (ppu : Ppu) : Candidate :=
  if ppu.mask.showBackground && (9 ≤ ppu.dot || ppu.mask.showBackgroundLeft) then
    ppu.background.candidate ppu.fineX
  else .clear

/-- The foreground of the current dot. -/
def spriteForeground (ppu : Ppu) : Foreground × Ppu :=
  if ppu.mask.showSprites && (9 ≤ ppu.dot || ppu.mask.showSpritesLeft) then
    let (foreground, sprites) := ppu.sprites.foreground
    (foreground, { ppu with sprites })
  else (.clear, ppu)

/-- Whether opaque pixels of both sides at the current dot are a hit of sprite zero. -/
def hitsZero (ppu : Ppu) : Bool :=
  let clipped := !(ppu.mask.showBackgroundLeft || ppu.mask.showSpritesLeft)
  ppu.sprites.zeroSelected && ppu.sprites.zeroShown
    && ppu.mask.showBackground && ppu.mask.showSprites
    && ppu.dotWithin (if clipped then 9 else 1) 258

/-- Decide between the two sides. The front one wins where both are opaque, and there the hit of
sprite zero is noted. -/
def compose (ppu : Ppu) : Candidate × Ppu :=
  let back := ppu.backgroundCandidate
  let (front, ppu) := ppu.spriteForeground
  match back.isOpaque, front.candidate.isOpaque with
  | false, false => (.clear, ppu)
  | false, true => (front.candidate, ppu)
  | true, false => (back, ppu)
  | true, true =>
    (if front.inFront then front.candidate else back,
      if ppu.hitsZero then { ppu with status := { ppu.status with zeroHit := true } } else ppu)

/-- Make the pixel of the current dot, if it has one. -/
@[specialize] def makePixel (ppu : Ppu) (slot : κ) : Option Pixel × Ppu :=
  if ppu.visibleLine && ppu.dotWithin 1 257 then
    let (candidate, ppu) := ppu.compose
    if ppu.drawsFrame then
      (some ⟨(ppu.dot - 1).toNatClampNeg, ppu.line.toNatClampNeg,
        ppu.screenColor slot candidate⟩, ppu)
    else (none, ppu)
  else (none, ppu)

/-- Go on to the next dot, line and frame. -/
def nextDot (ppu : Ppu) : Ppu :=
  let dot := ppu.dot + 1
  if dot < 341 then { ppu with dot }
  else
    let line := ppu.line + 1
    if line < 261 then { ppu with dot := 0, line }
    else
      { ppu with dot := 0, line := -1, frameComplete := true, oddFrame := !ppu.oddFrame }

/-- Whether the cartridge is told about the line at the end of the current dot. -/
@[inline] def countsLine (ppu : Ppu) : Bool := ppu.dot + 1 == 260 && ppu.line < 240

/-- What a dot leaves behind. -/
structure Clocked (κ : Type) where
  /-- The chip. -/
  ppu : Ppu
  /-- The cartridge slot. -/
  slot : κ
  /-- The pixel, if the dot has one. -/
  pixel : Option Pixel

/-- One dot. -/
@[specialize] def clock (ppu : Ppu) (slot : κ) : Clocked κ :=
  let rendering := ppu.mask.rendering
  let ppu := if ppu.rendersLine then ppu.renderDot slot else ppu
  let (pixel, ppu) := ppu.beginBlank.makePixel slot
  let slot := if rendering && ppu.countsLine then CartridgeSide.countLine slot else slot
  ⟨ppu.nextDot, slot, pixel⟩

end Nes.Ppu
