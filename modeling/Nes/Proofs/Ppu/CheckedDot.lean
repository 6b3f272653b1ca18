import Nes.Proofs.Ppu.CheckedSprites

/-!
# The arithmetic of a dot

The phases of a dot, put together with checked arithmetic: the work of a line, the pixel, and the
way over the grid. On a chip within its bounds, over a slot within its bounds, every check of a dot
succeeds (`checkedClock_eq`), and so does every check of a read of a register
(`checkedReadRegister_eq`).
-/
namespace Nes.Ppu

open Cartridge (SlotBounded slotCountLine? slotCountLine?_eq)

/-- Shift and fetch on the dots that draw or fetch ahead. -/
def checkedRunPipelines (ppu : Ppu) (slot : Option Cartridge) : Option Ppu :=
  if ppu.dotWithin 2 258 || ppu.dotWithin 321 338 then do
    let ppu ← ppu.checkedShiftPipelines
    ppu.checkedFetchBackground slot
  else some ppu

/-- Move the scroll word to the next line at the end of a line, and back to the top before the
picture. -/
def checkedMoveToNextLine (ppu : Ppu) (slot : Option Cartridge) : Option Ppu := do
  let ppu ←
    (if ppu.dot == 256 then ppu.checkedMoveScroll Scroll.checkedNextLine else some ppu)
  let ppu := if ppu.dot == 257 then
      ppu.loadBackground.moveScroll (·.copyHorizontal ppu.nextScroll)
    else ppu
  let ppu ← (if ppu.dot == 338 || ppu.dot == 340 then ppu.checkedFetchTile slot else some ppu)
  return if ppu.line == -1 && ppu.dotWithin 280 305 then
      ppu.moveScroll (·.copyVertical ppu.nextScroll)
    else ppu

/-- The end of a line on the sprite side. -/
def checkedRunSprites (ppu : Ppu) (slot : Option Cartridge) : Option Ppu := do
  let ppu ← (if ppu.dot == 257 && 0 ≤ ppu.line then ppu.checkedSelectSprites else some ppu)
  if ppu.dot == 340 then ppu.checkedFetchSprites slot else some ppu

/-- The work of a dot on a line that runs the pipelines. -/
def checkedRenderDot (ppu : Ppu) (slot : Option Cartridge) : Option Ppu := do
  let ppu ← ppu.leaveOutDot.clearFlags.checkedRunPipelines slot
  let ppu ← ppu.checkedMoveToNextLine slot
  ppu.checkedRunSprites slot

section Line

variable {slot : Option Cartridge} (slotBounded : SlotBounded slot)

include slotBounded

/-- The scroll word is moved down exactly at the end of a line. -/
theorem checkedMoveToNextLine_eq (ppu : Ppu) :
    ppu.checkedMoveToNextLine slot = some (ppu.moveToNextLine slot) := by
  have down := checkedMoveScroll_eq Scroll.checkedNextLine_eq ppu
  rw [checkedMoveToNextLine, ite_eq_some down rfl, Option.bind_eq_bind, Option.bind_some]
  dsimp only
  rw [ite_eq_some (checkedFetchTile_eq slotBounded _) rfl, Option.bind_some]
  rfl

variable {ppu : Ppu} (bounded : Bounded ppu)

include bounded

/-- On a chip within its bounds the pipelines shift and fetch exactly. -/
theorem checkedRunPipelines_eq :
    ppu.checkedRunPipelines slot = some (ppu.runPipelines slot) := by
  have shifted := KeepsBounds.shiftPipelines ppu bounded
  have fetched := checkedFetchBackground_eq slotBounded shifted
  rw [checkedRunPipelines, checkedShiftPipelines_eq, Option.bind_eq_bind, Option.bind_some]
  exact ite_eq_some fetched rfl

/-- On a chip within its bounds sprites are selected and fetched exactly. -/
theorem checkedRunSprites_eq : ppu.checkedRunSprites slot = some (ppu.runSprites slot) := by
  rw [checkedRunSprites, ite_eq_some (checkedSelectSprites_eq bounded) rfl, Option.bind_eq_bind,
    Option.bind_some]
  exact ite_eq_some (checkedFetchSprites_eq slotBounded _) rfl

/-- The work of a dot is exact on a chip within its bounds. -/
theorem checkedRenderDot_eq : ppu.checkedRenderDot slot = some (ppu.renderDot slot) := by
  have cleared := KeepsBounds.leaveOutDot.andThen KeepsBounds.clearFlags ppu bounded
  have fetched := KeepsBounds.runPipelines slot _ cleared
  have moved := KeepsBounds.moveToNextLine slot _ fetched
  rw [checkedRenderDot, checkedRunPipelines_eq slotBounded cleared, Option.bind_eq_bind,
    Option.bind_some, checkedMoveToNextLine_eq slotBounded, Option.bind_some,
    checkedRunSprites_eq slotBounded moved]
  rfl

end Line

/-- The candidate at a fine horizontal scroll. -/
def Background.checkedCandidate (background : Background) (fineX : UInt8) :
    Option Candidate := do
  let place ← shiftRight? 0x8000 fineX
  let reads (word : UInt16) : Bool := word &&& place != 0
  return {
    palette := pairOf (reads background.attributeHigh) (reads background.attributeLow)
    color := pairOf (reads background.patternHigh) (reads background.patternLow) }

/-- The background candidate of the current dot. -/
def checkedBackgroundCandidate (ppu : Ppu) : Option Candidate :=
  if ppu.mask.showBackground && (9 ≤ ppu.dot || ppu.mask.showBackgroundLeft) then
    ppu.background.checkedCandidate ppu.fineX
  else some .clear

/-- The palette of a sprite. -/
def OamEntry.checkedPalette (entry : OamEntry) : Option UInt8 :=
  add? (entry.attributes &&& 0x03) 4

/-- The foreground of the selected sprites, and the pipeline with its source noted. The note is
made without arithmetic. -/
def Sprites.checkedForeground (sprites : Sprites) : Option (Foreground × Sprites) :=
  match sprites.shown? with
  | none => some (.clear, sprites.foreground.2)
  | some index => do
    let entry := sprites.slots.get index
    let palette ← entry.checkedPalette
    return (⟨⟨palette, sprites.colorOf index⟩, !entry.liesBehind⟩, sprites.foreground.2)

/-- The foreground of the current dot. -/
def checkedSpriteForeground (ppu : Ppu) : Option (Foreground × Ppu) :=
  if ppu.mask.showSprites && (9 ≤ ppu.dot || ppu.mask.showSpritesLeft) then do
    let (foreground, sprites) ← ppu.sprites.checkedForeground
    return (foreground, { ppu with sprites })
  else some (.clear, ppu)

/-- Decide between the two sides. -/
def checkedCompose (ppu : Ppu) : Option (Candidate × Ppu) := do
  let back ← ppu.checkedBackgroundCandidate
  let (front, ppu) ← ppu.checkedSpriteForeground
  return match back.isOpaque, front.candidate.isOpaque with
    | false, false => (.clear, ppu)
    | false, true => (front.candidate, ppu)
    | true, false => (back, ppu)
    | true, true =>
      (if front.inFront then front.candidate else back,
        if ppu.hitsZero then { ppu with status := { ppu.status with zeroHit := true } } else ppu)

/-- The colour on the screen of a palette and a colour within it. -/
def checkedScreenColor (ppu : Ppu) (slot : Option Cartridge) (candidate : Candidate) :
    Option Color := do
  let place : UInt16 := candidate.palette.toUInt16 <<< 2
  let palette ← add? 0x3F00 place
  let address ← add? palette candidate.color.toUInt16
  let entry ← ppu.checkedReadVideo slot address
  return Color.ofEntry entry

/-- Make the pixel of the current dot, if it has one. -/
def checkedMakePixel (ppu : Ppu) (slot : Option Cartridge) : Option (Option Pixel × Ppu) :=
  if ppu.visibleLine && ppu.dotWithin 1 257 then do
    let (candidate, ppu) ← ppu.checkedCompose
    if ppu.drawsFrame then
      let color ← ppu.checkedScreenColor slot candidate
      let column ← sub? ppu.dot 1
      return (some ⟨column.toNatClampNeg, ppu.line.toNatClampNeg, color⟩, ppu)
    else return (none, ppu)
  else some (none, ppu)

/-- The candidate of a pixel within a tile is shifted out by fewer places than a word has. -/
theorem Background.checkedCandidate_eq (background : Background) {fineX : UInt8}
    (inTile : fineX < 8) :
    background.checkedCandidate fineX = some (background.candidate fineX) := by
  have inWord : fineX < 16 := UInt8.lt_trans inTile (by decide)
  rw [checkedCandidate, shiftRight?_eq _ inWord]
  rfl

/-- The palettes of sprites are numbered from four to seven. -/
theorem OamEntry.checkedPalette_eq (entry : OamEntry) :
    entry.checkedPalette = some entry.palette := by
  have low : entry.attributes.toNat &&& 3 ≤ 3 := Nat.and_le_right
  apply add?_byte
  rw [UInt8.toNat_and]
  change (entry.attributes.toNat &&& 3) + 4 < 256
  omega

/-- The foreground of the selected sprites is worked out exactly. -/
theorem Sprites.checkedForeground_eq (sprites : Sprites) :
    sprites.checkedForeground = some sprites.foreground := by
  rw [checkedForeground, foreground]
  cases sprites.shown? with
  | none => rfl
  | some index =>
    dsimp only
    rw [OamEntry.checkedPalette_eq]
    rfl

/-- The foreground of a dot is worked out exactly, whether sprites are shown or not. -/
theorem checkedSpriteForeground_eq (ppu : Ppu) :
    ppu.checkedSpriteForeground = some ppu.spriteForeground := by
  rw [checkedSpriteForeground, Sprites.checkedForeground_eq]
  exact ite_eq_some rfl rfl

section Pixels

variable {slot : Option Cartridge} (slotBounded : SlotBounded slot) {ppu : Ppu}
  (bounded : Bounded ppu)

include bounded in
/-- The two sides are brought together exactly while fine X lies in a tile. -/
theorem checkedCompose_eq : ppu.checkedCompose = some ppu.compose := by
  have back : ppu.checkedBackgroundCandidate = some ppu.backgroundCandidate :=
    ite_eq_some (ppu.background.checkedCandidate_eq bounded.fineX) rfl
  rw [checkedCompose, back, Option.bind_eq_bind, Option.bind_some, checkedSpriteForeground_eq]
  rfl

include slotBounded

/-- Every palette and colour has an address, whether it names an entry or not. -/
theorem checkedScreenColor_eq (ppu : Ppu) (candidate : Candidate) :
    ppu.checkedScreenColor slot candidate = some (ppu.screenColor slot candidate) := by
  have paletteBound := candidate.palette.toNat_lt
  have colorBound := candidate.color.toNat_lt
  have place : (candidate.palette.toUInt16 <<< 2).toNat = 4 * candidate.palette.toNat := by
    rw [UInt16.toNat_shiftLeft, UInt8.toNat_toUInt16, Nat.shiftLeft_eq]
    change candidate.palette.toNat * 4 % 65536 = _
    omega
  rw [checkedScreenColor, screenColor]
  generalize candidate.palette.toUInt16 <<< 2 = offset at place ⊢
  have first : add? 0x3F00 offset = some (0x3F00 + offset) := by
    apply add?_word
    change 0x3F00 + offset.toNat < 65536
    omega
  have second : add? (0x3F00 + offset) candidate.color.toUInt16
      = some (0x3F00 + offset + candidate.color.toUInt16) := by
    apply add?_word
    rw [UInt16.toNat_add, UInt8.toNat_toUInt16]
    change (0x3F00 + offset.toNat) % 65536 + _ < 65536
    omega
  rw [first, Option.bind_eq_bind, Option.bind_some, second, Option.bind_some,
    checkedReadVideo_eq slotBounded]
  rfl

include bounded

/-- A pixel is made exactly, with its place and its colour. -/
theorem checkedMakePixel_eq : ppu.checkedMakePixel slot = some (ppu.makePixel slot) := by
  have composed : Bounded ppu.compose.2 := bounded.congr (gauges_compose ppu)
  rw [checkedMakePixel, checkedCompose_eq bounded, Option.bind_eq_bind, Option.bind_some]
  dsimp only
  rw [checkedScreenColor_eq slotBounded, Option.bind_eq_bind, Option.bind_some,
    composed.sub?_dot]
  exact ite_eq_some (ite_eq_some rfl rfl) rfl

end Pixels

/-- Go on to the next dot, line and frame. -/
def checkedNextDot (ppu : Ppu) : Option Ppu := do
  let dot ← add? ppu.dot 1
  if dot < 341 then return { ppu with dot }
  else
    let line ← add? ppu.line 1
    return if line < 261 then { ppu with dot := 0, line }
      else
        { ppu with dot := 0, line := -1, frameComplete := true, oddFrame := !ppu.oddFrame }

/-- Whether the cartridge is told about the line at the end of the current dot. -/
def checkedCountsLine (ppu : Ppu) : Option Bool := do
  let next ← add? ppu.dot 1
  return next == 260 && ppu.line < 240

/-- One dot. -/
def checkedClock (ppu : Ppu) (slot : Option Cartridge) :
    Option (Clocked (Option Cartridge)) := do
  let rendering := ppu.mask.rendering
  let ppu ← (if ppu.rendersLine then ppu.checkedRenderDot slot else some ppu)
  let (pixel, ppu) ← ppu.beginBlank.checkedMakePixel slot
  let counts ← ppu.checkedCountsLine
  let slot ← (if rendering && counts then slotCountLine? slot else some slot)
  let ppu ← ppu.checkedNextDot
  return ⟨ppu, slot, pixel⟩

section Dots

variable {ppu : Ppu} (bounded : Bounded ppu)

include bounded

/-- The way over the grid counts no dot and no line out of its type. -/
theorem checkedNextDot_eq : ppu.checkedNextDot = some ppu.nextDot := by
  rw [checkedNextDot, bounded.add?_dot, Option.bind_eq_bind, Option.bind_some,
    bounded.add?_line]
  exact ite_eq_some rfl rfl

/-- The dot at which the cartridge is told about a line is counted exactly. -/
theorem checkedCountsLine_eq : ppu.checkedCountsLine = some ppu.countsLine := by
  rw [checkedCountsLine, bounded.add?_dot]
  rfl

/-- On a chip and a slot within their bounds a dot leaves no type. -/
theorem checkedClock_eq {slot : Option Cartridge} (slotBounded : SlotBounded slot) :
    ppu.checkedClock slot = some (ppu.clock slot) := by
  have rendered := checkedRenderDot_eq slotBounded bounded
  have composed : Bounded (ppu.composing slot) := KeepsBounds.composing slot ppu bounded
  have drawn : Bounded ((ppu.composing slot).makePixel slot).2 :=
    KeepsBounds.makePixel slot _ composed
  have whole : ppu.clock slot
      = ⟨((ppu.composing slot).makePixel slot).2.nextDot,
        if ppu.mask.rendering && ((ppu.composing slot).makePixel slot).2.countsLine then
          CartridgeSide.countLine slot
        else slot,
        ((ppu.composing slot).makePixel slot).1⟩ := by
    simp only [clock, composing]
    rfl
  rw [checkedClock, whole, ite_eq_some rendered rfl, Option.bind_eq_bind, Option.bind_some]
  change Option.bind ((ppu.composing slot).checkedMakePixel slot) _ = _
  rw [checkedMakePixel_eq slotBounded composed, Option.bind_some]
  dsimp only
  rw [checkedCountsLine_eq drawn, Option.bind_eq_bind, Option.bind_some,
    ite_eq_some (slotCountLine?_eq slot) rfl, Option.bind_eq_bind, Option.bind_some,
    checkedNextDot_eq drawn]
  rfl

end Dots

/-- Read video memory at the current address and go on. The address goes round. -/
def checkedReadData (ppu : Ppu) (slot : Option Cartridge) : Option (UInt8 × Ppu) := do
  let address := ppu.scroll.raw &&& 0x3FFF
  let fresh ← ppu.checkedReadVideo slot address
  let value := if address < 0x3F00 then ppu.readBuffer else fresh
  return (value, { ppu with readBuffer := fresh }.advanceAddress)

/-- A processor read of a register. A write does no arithmetic but such that goes round. -/
def checkedReadRegister (ppu : Ppu) (slot : Option Cartridge) (address : UInt16) :
    Option (UInt8 × Ppu) :=
  match address.toNat % 8 with
  | 2 => some ppu.readStatus
  | 4 => some (ppu.oam.read ppu.oamAddress.toNat, ppu)
  | 7 => ppu.checkedReadData slot
  | _ => some (0, ppu)

/-- A read of any register is exact on every chip over a slot within its bounds. -/
theorem checkedReadRegister_eq {slot : Option Cartridge} (slotBounded : SlotBounded slot)
    (ppu : Ppu) (address : UInt16) :
    ppu.checkedReadRegister slot address = some (ppu.readRegister slot address) := by
  have data : ppu.checkedReadData slot = some (ppu.readData slot) := by
    rw [checkedReadData]
    dsimp only
    rw [checkedReadVideo_eq slotBounded]
    rfl
  rw [checkedReadRegister, readRegister, data]
  generalize address.toNat % 8 = register
  obtain _ | _ | _ | _ | _ | _ | _ | _ | _ := register <;> rfl

end Nes.Ppu
