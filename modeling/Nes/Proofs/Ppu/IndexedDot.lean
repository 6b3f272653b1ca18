import Nes.Proofs.Arithmetic.Checked
import Nes.Proofs.Ppu.IndexedSprites

/-!
# Indexes of a dot

The phases of a dot that go to memory, to the slots or to the colours, put together with accesses by
index. The other phases work on registers alone and are taken over as they are. Since every access
of a phase succeeds on any chip, so does a whole dot (`indexedClock_eq`): no place in the frame and
no count of sprites that a state may name leads out of an array.
-/
namespace Nes.Ppu

variable (ppu : Ppu) (slot : Option Cartridge)

/-- Move the shift registers of both pipelines by one dot. -/
def indexedShiftPipelines : Option Ppu :=
  let ppu := if ppu.mask.showBackground then { ppu with background := ppu.background.shift }
    else ppu
  if ppu.mask.showSprites && ppu.dotWithin 1 258 then do
    let sprites ← ppu.sprites.indexedShift
    return { ppu with sprites }
  else some ppu

/-- Fetch the number of the next tile. -/
def indexedFetchTile : Option Ppu := do
  let tile ← ppu.indexedReadVideo slot ppu.scroll.tileAddress
  return { ppu with background := { ppu.background with nextTile := tile } }

/-- Fetch the palette of the next tile. -/
def indexedFetchAttribute : Option Ppu := do
  let byte ← ppu.indexedReadVideo slot ppu.scroll.attributeAddress
  return { ppu with
    background := { ppu.background with nextAttribute := ppu.scroll.attributeOf byte } }

/-- Fetch the low plane of the next tile. -/
def indexedFetchLow : Option Ppu := do
  let plane ← ppu.indexedReadVideo slot ppu.patternAddress
  return { ppu with background := { ppu.background with nextLow := plane } }

/-- Fetch the high plane of the next tile. -/
def indexedFetchHigh : Option Ppu := do
  let plane ← ppu.indexedReadVideo slot (ppu.patternAddress + 8)
  return { ppu with background := { ppu.background with nextHigh := plane } }

/-- The step of the background pipeline that falls to the current dot. Four of eight fetch. -/
def indexedFetchBackground : Option Ppu :=
  match (ppu.dot - 1).toNatClampNeg % 8 with
  | 0 => ppu.loadBackground.indexedFetchTile slot
  | 2 => ppu.indexedFetchAttribute slot
  | 4 => ppu.indexedFetchLow slot
  | 6 => ppu.indexedFetchHigh slot
  | _ => some (ppu.fetchBackground slot)

/-- Shifting both pipelines asks for slots that there are. -/
theorem indexedShiftPipelines_eq : ppu.indexedShiftPipelines = some ppu.shiftPipelines := by
  simp only [indexedShiftPipelines, shiftPipelines, Sprites.indexedShift_eq]
  exact ite_eq_some rfl rfl

/-- A tile is fetched from a byte that there is. -/
theorem indexedFetchTile_eq : ppu.indexedFetchTile slot = some (ppu.fetchTile slot) := by
  rw [indexedFetchTile, indexedReadVideo_eq]
  rfl

/-- Each step of the background pipeline fetches from a byte that there is. -/
theorem indexedFetchBackground_eq :
    ppu.indexedFetchBackground slot = some (ppu.fetchBackground slot) := by
  rw [indexedFetchBackground]
  split
  case h_1 step => simp only [fetchBackground, step, indexedFetchTile_eq]
  case h_2 step =>
    simp only [fetchBackground, step, indexedFetchAttribute, indexedReadVideo_eq]
    rfl
  case h_3 step =>
    simp only [fetchBackground, step, indexedFetchLow, indexedReadVideo_eq]
    rfl
  case h_4 step =>
    simp only [fetchBackground, step, indexedFetchHigh, indexedReadVideo_eq]
    rfl
  case h_5 => rfl

/-- Shift and fetch on the dots that draw or fetch ahead. -/
def indexedRunPipelines : Option Ppu :=
  if ppu.dotWithin 2 258 || ppu.dotWithin 321 338 then do
    let ppu ← ppu.indexedShiftPipelines
    ppu.indexedFetchBackground slot
  else some ppu

/-- Move the scroll word to the next line at the end of a line, and back to the top before the
picture. -/
def indexedMoveToNextLine : Option Ppu := do
  let ppu := if ppu.dot == 256 then ppu.moveScroll Scroll.nextLine else ppu
  let ppu := if ppu.dot == 257 then
      ppu.loadBackground.moveScroll (·.copyHorizontal ppu.nextScroll)
    else ppu
  let ppu ← (if ppu.dot == 338 || ppu.dot == 340 then ppu.indexedFetchTile slot else some ppu)
  return if ppu.line == -1 && ppu.dotWithin 280 305 then
      ppu.moveScroll (·.copyVertical ppu.nextScroll)
    else ppu

/-- The end of a line on the sprite side. -/
def indexedRunSprites : Option Ppu := do
  let ppu ← (if ppu.dot == 257 && 0 ≤ ppu.line then ppu.indexedSelectSprites else some ppu)
  if ppu.dot == 340 then ppu.indexedFetchSprites slot else some ppu

/-- The work of a dot on a line that runs the pipelines. -/
def indexedRenderDot : Option Ppu := do
  let ppu ← ppu.leaveOutDot.clearFlags.indexedRunPipelines slot
  let ppu ← ppu.indexedMoveToNextLine slot
  ppu.indexedRunSprites slot

/-- Shifting and fetching together miss no index. -/
theorem indexedRunPipelines_eq : ppu.indexedRunPipelines slot = some (ppu.runPipelines slot) := by
  rw [indexedRunPipelines, indexedShiftPipelines_eq, Option.bind_eq_bind, Option.bind_some]
  exact ite_eq_some (indexedFetchBackground_eq _ slot) rfl

/-- The fetches at the end of a line miss no index. -/
theorem indexedMoveToNextLine_eq :
    ppu.indexedMoveToNextLine slot = some (ppu.moveToNextLine slot) := by
  rw [indexedMoveToNextLine, ite_eq_some (indexedFetchTile_eq _ slot) rfl]
  rfl

/-- Selecting sprites and fetching their patterns miss no index. -/
theorem indexedRunSprites_eq : ppu.indexedRunSprites slot = some (ppu.runSprites slot) := by
  rw [indexedRunSprites, ite_eq_some (indexedSelectSprites_eq ppu) rfl, Option.bind_eq_bind,
    Option.bind_some]
  exact ite_eq_some (indexedFetchSprites_eq _ slot) rfl

/-- The work of a dot misses no index. -/
theorem indexedRenderDot_eq : ppu.indexedRenderDot slot = some (ppu.renderDot slot) := by
  rw [indexedRenderDot, indexedRunPipelines_eq, Option.bind_eq_bind, Option.bind_some,
    indexedMoveToNextLine_eq, Option.bind_some, indexedRunSprites_eq]
  rfl

/-- The foreground of the current dot. -/
def indexedSpriteForeground : Option (Foreground × Ppu) :=
  if ppu.mask.showSprites && (9 ≤ ppu.dot || ppu.mask.showSpritesLeft) then do
    let (foreground, sprites) ← ppu.sprites.indexedForeground
    return (foreground, { ppu with sprites })
  else some (.clear, ppu)

/-- Decide between the two sides. -/
def indexedCompose : Option (Candidate × Ppu) := do
  let back := ppu.backgroundCandidate
  let (front, ppu) ← ppu.indexedSpriteForeground
  return match back.isOpaque, front.candidate.isOpaque with
    | false, false => (.clear, ppu)
    | false, true => (front.candidate, ppu)
    | true, false => (back, ppu)
    | true, true =>
      (if front.inFront then front.candidate else back,
        if ppu.hitsZero then { ppu with status := { ppu.status with zeroHit := true } } else ppu)

/-- Make the pixel of the current dot, if it has one. -/
def indexedMakePixel : Option (Option Pixel × Ppu) :=
  if ppu.visibleLine && ppu.dotWithin 1 257 then do
    let (candidate, ppu) ← ppu.indexedCompose
    if ppu.drawsFrame then
      let color ← ppu.indexedScreenColor slot candidate
      return (some ⟨(ppu.dot - 1).toNatClampNeg, ppu.line.toNatClampNeg, color⟩, ppu)
    else return (none, ppu)
  else some (none, ppu)

/-- The foreground of a dot is taken from a slot that there is. -/
theorem indexedSpriteForeground_eq :
    ppu.indexedSpriteForeground = some ppu.spriteForeground := by
  rw [indexedSpriteForeground, Sprites.indexedForeground_eq]
  exact ite_eq_some rfl rfl

/-- The two sides are brought together without a miss. -/
theorem indexedCompose_eq : ppu.indexedCompose = some ppu.compose := by
  rw [indexedCompose, indexedSpriteForeground_eq]
  rfl

/-- The colour of a pixel is one of the table. -/
theorem indexedMakePixel_eq : ppu.indexedMakePixel slot = some (ppu.makePixel slot) := by
  rw [indexedMakePixel, indexedCompose_eq, Option.bind_eq_bind, Option.bind_some]
  dsimp only
  rw [indexedScreenColor_eq]
  exact ite_eq_some (ite_eq_some rfl rfl) rfl

/-- One dot. -/
def indexedClock : Option (Clocked (Option Cartridge)) := do
  let rendering := ppu.mask.rendering
  let ppu ← (if ppu.rendersLine then ppu.indexedRenderDot slot else some ppu)
  let (pixel, ppu) ← ppu.beginBlank.indexedMakePixel slot
  let slot := if rendering && ppu.countsLine then CartridgeSide.countLine slot else slot
  return ⟨ppu.nextDot, slot, pixel⟩

/-- A dot stays inside of all arrays, on any chip and over any slot. -/
theorem indexedClock_eq : ppu.indexedClock slot = some (ppu.clock slot) := by
  rw [indexedClock, ite_eq_some (indexedRenderDot_eq ppu slot) rfl, Option.bind_eq_bind,
    Option.bind_some, indexedMakePixel_eq]
  rfl

end Nes.Ppu
