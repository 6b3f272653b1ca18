import Nes.Proofs.Ppu.Grid

/-!
# The work of each dot

Which phases of a dot do anything depends on the place alone. The equations here name, for every
place of a line that runs the pipelines, what the dot makes of the background side and of the sprite
side; everywhere else they stay as they are.
-/
namespace Nes.Ppu

variable {κ : Type} [CartridgeSide κ]

/-- The scroll word moves while anything is shown. -/
theorem moveScroll_of_rendering {ppu : Ppu} (rendering : ppu.mask.rendering = true)
    (change : Scroll → Scroll) :
    ppu.moveScroll change = { ppu with scroll := change ppu.scroll } := if_pos rendering

namespace StandsAt

variable {ppu : Ppu} {place : Nat} (here : StandsAt ppu place) (slot : κ)

include here

/-- The flags are cleared in the second dot of a frame only. -/
theorem clearFlags_of_ne (other : place ≠ 1) : ppu.clearFlags = ppu := by
  rw [Ppu.clearFlags, if_neg (mt (here.isAt_iff (-1) 1 1 rfl rfl).1 other)]

/-- The pipelines run while a line is drawn, and while the next one is prepared. -/
theorem runs_iff :
    (ppu.dotWithin 2 258 || ppu.dotWithin 321 338) = true
      ↔ 2 ≤ place % 341 ∧ place % 341 < 258 ∨ 321 ≤ place % 341 ∧ place % 341 < 338 := by
  rw [Bool.or_eq_true, here.dotWithin_iff 2 258 2 258 rfl rfl,
    here.dotWithin_iff 321 338 321 338 rfl rfl]

/-- Outside of the dots that draw or fetch ahead, the pipelines stand still. -/
theorem runPipelines_of_idle
    (idle : ¬(2 ≤ place % 341 ∧ place % 341 < 258 ∨ 321 ≤ place % 341 ∧ place % 341 < 338)) :
    ppu.runPipelines slot = ppu := by
  rw [Ppu.runPipelines, if_neg (mt here.runs_iff.1 idle)]

/-- In the dots that draw or fetch ahead, the pipelines shift and fetch. -/
theorem runPipelines_of_busy
    (busy : 2 ≤ place % 341 ∧ place % 341 < 258 ∨ 321 ≤ place % 341 ∧ place % 341 < 338) :
    ppu.runPipelines slot = ppu.shiftPipelines.fetchBackground slot := by
  rw [Ppu.runPipelines, if_pos (here.runs_iff.2 busy)]

/-- A move of the scroll word does not move the chip. -/
theorem moveScroll (change : Scroll → Scroll) : StandsAt (ppu.moveScroll change) place :=
  here.of_grid (congrArg Prod.fst (besideTiles_moveScroll (fun _ => change) ppu))

/-- Two tile numbers at the end of a line are fetched without use. -/
theorem unused_iff :
    (ppu.dot == 338 || ppu.dot == 340) = true ↔ place % 341 = 338 ∨ place % 341 = 340 := by
  rw [Bool.or_eq_true, here.dot_eq_iff 338 338 rfl, here.dot_eq_iff 340 340 rfl]

/-- The vertical part of the scroll word is taken over on the line before the picture only. -/
theorem top_iff :
    (ppu.line == -1 && ppu.dotWithin 280 305) = true ↔ 280 ≤ place ∧ place < 305 := by
  rw [Bool.and_eq_true, here.line_eq_iff (-1) 0 rfl, here.dotWithin_iff 280 305 280 305 rfl rfl]
  omega

/-- Away from the ends of a line and from the top of the picture, nothing is moved or fetched. -/
theorem moveToNextLine_of_idle (drawing : place % 341 ≠ 256) (ending : place % 341 ≠ 257)
    (used : ¬(place % 341 = 338 ∨ place % 341 = 340)) (below : ¬(280 ≤ place ∧ place < 305)) :
    ppu.moveToNextLine slot = ppu := by
  simp only [Ppu.moveToNextLine, if_neg (mt (here.dot_eq_iff 256 256 rfl).1 drawing),
    if_neg (mt (here.dot_eq_iff 257 257 rfl).1 ending), if_neg (mt here.unused_iff.1 used),
    if_neg (mt here.top_iff.1 below)]

/-- The last dot of the picture on a line moves the scroll word down by a line. -/
theorem moveToNextLine_of_last (last : place % 341 = 256) :
    ppu.moveToNextLine slot = ppu.moveScroll Scroll.nextLine := by
  have there := here.moveScroll Scroll.nextLine
  simp only [Ppu.moveToNextLine, if_pos ((here.dot_eq_iff 256 256 rfl).2 last),
    if_neg (mt (there.dot_eq_iff 257 257 rfl).1 (by omega)),
    if_neg (mt there.unused_iff.1 (by omega)), if_neg (mt there.top_iff.1 (by omega))]

/-- The dot after it takes the scroll word back to the left edge. -/
theorem moveToNextLine_of_return (last : place % 341 = 257) :
    ppu.moveToNextLine slot
      = ppu.loadBackground.moveScroll (·.copyHorizontal ppu.nextScroll) := by
  have loaded : StandsAt ppu.loadBackground place := here.of_grid rfl
  have there := loaded.moveScroll (·.copyHorizontal ppu.nextScroll)
  simp only [Ppu.moveToNextLine, if_neg (mt (here.dot_eq_iff 256 256 rfl).1 (by omega)),
    if_pos ((here.dot_eq_iff 257 257 rfl).2 last), if_neg (mt there.unused_iff.1 (by omega)),
    if_neg (mt there.top_iff.1 (by omega))]

/-- The two unused fetches at the end of a line read a tile and do nothing else. -/
theorem moveToNextLine_of_unused (unused : place % 341 = 338 ∨ place % 341 = 340) :
    ppu.moveToNextLine slot = ppu.fetchTile slot := by
  have there : StandsAt (ppu.fetchTile slot) place := here.of_grid rfl
  simp only [Ppu.moveToNextLine, if_neg (mt (here.dot_eq_iff 256 256 rfl).1 (by omega)),
    if_neg (mt (here.dot_eq_iff 257 257 rfl).1 (by omega)), if_pos (here.unused_iff.2 unused),
    if_neg (mt there.top_iff.1 (by omega))]

/-- Before the picture the scroll word is taken back to the top. -/
theorem moveToNextLine_of_top (top : 280 ≤ place ∧ place < 305) :
    ppu.moveToNextLine slot = ppu.moveScroll (·.copyVertical ppu.nextScroll) := by
  simp only [Ppu.moveToNextLine, if_neg (mt (here.dot_eq_iff 256 256 rfl).1 (by omega)),
    if_neg (mt (here.dot_eq_iff 257 257 rfl).1 (by omega)),
    if_neg (mt here.unused_iff.1 (by omega)), if_pos (here.top_iff.2 top)]

/-- Sprites are selected on the lines of the picture only. -/
theorem selects_iff :
    (ppu.dot == 257 && 0 ≤ ppu.line) = true ↔ place % 341 = 257 ∧ 341 ≤ place := by
  rw [Bool.and_eq_true, here.dot_eq_iff 257 257 rfl, decide_eq_true_iff,
    Int16.le_iff_toInt_le, here.line]
  change _ ∧ (0 : Int) ≤ _ ↔ _
  omega

/-- Away from the ends of a line nothing is done for sprites. -/
theorem runSprites_of_idle (notLast : ¬(place % 341 = 257 ∧ 341 ≤ place))
    (notEnd : place % 341 ≠ 340) : ppu.runSprites slot = ppu := by
  simp only [Ppu.runSprites, if_neg (mt here.selects_iff.1 notLast),
    if_neg (mt (here.dot_eq_iff 340 340 rfl).1 notEnd)]

/-- Sprites are selected behind the last pixel of a line of the picture. -/
theorem runSprites_of_select (last : place % 341 = 257) (visible : 341 ≤ place) :
    ppu.runSprites slot = ppu.selectSprites := by
  have there : StandsAt ppu.selectSprites place := here.of_grid rfl
  simp only [Ppu.runSprites, if_pos (here.selects_iff.2 ⟨last, visible⟩),
    if_neg (mt (there.dot_eq_iff 340 340 rfl).1 (by omega))]

/-- Patterns of sprites are fetched in the last dot of a line. -/
theorem runSprites_of_fetch (last : place % 341 = 340) :
    ppu.runSprites slot = ppu.fetchSprites slot := by
  simp only [Ppu.runSprites, if_neg (mt here.selects_iff.1 (by omega)),
    if_pos ((here.dot_eq_iff 340 340 rfl).2 last)]

/-- In the first two dots of a line no pipeline runs. -/
theorem renderDot_of_early (early : place % 341 < 2) :
    ppu.renderDot slot = ppu.leaveOutDot.clearFlags := by
  have left := here.leaveOutDot
  have cases := here.leftOut_cases
  have there : StandsAt ppu.leaveOutDot.clearFlags (place + ppu.leftOut) :=
    left.of_grid (congrArg Prod.fst (besideSprites_clearFlags ppu.leaveOutDot))
  rw [Ppu.renderDot, there.runPipelines_of_idle slot (by omega),
    there.moveToNextLine_of_idle slot (by omega) (by omega) (by omega) (by omega),
    there.runSprites_of_idle slot (by omega) (by omega)]

/-- From the third dot on there are fetching, moving on and sprites only. -/
theorem renderDot_of_later (later : 2 ≤ place % 341) :
    ppu.renderDot slot = ((ppu.runPipelines slot).moveToNextLine slot).runSprites slot := by
  rw [Ppu.renderDot, here.leaveOutDot_of_ne (by omega), here.clearFlags_of_ne (by omega)]

end StandsAt

/-- The step to the next dot takes both sides along. -/
theorem sides_nextDot (ppu : Ppu) :
    ppu.nextDot.tiles = ppu.tiles ∧ ppu.nextDot.lineup = ppu.lineup := by
  dsimp only [nextDot]
  split
  · exact ⟨rfl, rfl⟩
  split <;> exact ⟨rfl, rfl⟩

/-- A dot leaves both sides as they are when the pixel is made. -/
theorem sides_clock (ppu : Ppu) (slot : κ) :
    (ppu.clock slot).ppu.tiles = (ppu.composing slot).tiles ∧
      (ppu.clock slot).ppu.lineup = (ppu.composing slot).lineup := by
  obtain ⟨-, tiles, lineup⟩ := stage_eq_iff.1 (ppu.stage_drawn slot)
  obtain ⟨tilesOn, lineupOn⟩ := sides_nextDot (DotPhase.drawn ppu slot)
  rw [DotPhase.clock_ppu]
  exact ⟨tilesOn.trans tiles, lineupOn.trans lineup⟩

/-- On a line that runs the pipelines the pixel is made behind the work of the dot. -/
theorem sides_composing (ppu : Ppu) (slot : κ) (renders : ppu.rendersLine = true) :
    (ppu.composing slot).tiles = (ppu.renderDot slot).tiles ∧
      (ppu.composing slot).lineup = (ppu.renderDot slot).lineup := by
  rw [composing, if_pos renders]
  exact (stage_eq_iff.1 (stage_beginBlank (ppu.renderDot slot))).2

namespace StandsAt

variable {ppu : Ppu} {place : Nat} (here : StandsAt ppu place) (slot : κ)

include here

/-- Before the first pixel of a line the tiles stay as they are. -/
theorem tiles_composing_of_early (early : place % 341 < 2) :
    (ppu.composing slot).tiles = ppu.tiles := by
  by_cases renders : ppu.rendersLine = true
  · have cleared := (besideSprites_eq_iff.1 (besideSprites_clearFlags ppu.leaveOutDot)).2
    rw [(ppu.sides_composing slot renders).1, here.renderDot_of_early slot early, cleared,
      leaveOutDot_eq]
    split <;> rfl
  · rw [Ppu.composing, if_neg renders]
    exact (stage_eq_iff.1 (stage_beginBlank ppu)).2.1

/-- Later on a line of the picture, the tiles are what the pipelines and the end of the line make of
them. -/
theorem tiles_composing (renders : place < 341 * 241) (later : 2 ≤ place % 341) :
    (ppu.composing slot).tiles = ((ppu.runPipelines slot).moveToNextLine slot).tiles := by
  rw [(ppu.sides_composing slot (here.rendersLine_iff.2 renders)).1,
    here.renderDot_of_later slot later]
  exact (besideSprites_eq_iff.1 (besideSprites_runSprites slot _)).2

/-- The work on tiles of a dot moves the sprites by one column while a line is drawn. -/
theorem sprites_moveToNextLine (later : 2 ≤ place % 341) :
    ((ppu.runPipelines slot).moveToNextLine slot).sprites
      = if ppu.mask.showSprites = true ∧ place % 341 < 258 then ppu.sprites.shift
        else ppu.sprites := by
  have kept := (besideTiles_eq_iff.1 (besideTiles_moveToNextLine slot (ppu.runPipelines slot))).2
  rw [kept]
  by_cases busy : 2 ≤ place % 341 ∧ place % 341 < 258 ∨ 321 ≤ place % 341 ∧ place % 341 < 338
  · have fetched := (besideTiles_eq_iff.1 (besideTiles_fetchBackground slot ppu.shiftPipelines)).2
    have shifts : (ppu.mask.showSprites && ppu.dotWithin 1 258) = true
        ↔ ppu.mask.showSprites = true ∧ place % 341 < 258 := by
      rw [Bool.and_eq_true, here.dotWithin_iff 1 258 1 258 rfl rfl]
      exact and_congr_right fun _ => and_iff_right (by omega)
    rw [here.runPipelines_of_busy slot busy]
    refine fetched.trans ?_
    rw [sprites_shiftPipelines]
    simp only [shifts]
  · rw [here.runPipelines_of_idle slot busy, if_neg (by omega)]

/-- In the first two dots of a line the sprites stay as they are, but for those of the last
frame. -/
theorem lineup_composing_of_early (early : place % 341 < 2) (other : place ≠ 1) :
    (ppu.composing slot).lineup = ppu.lineup := by
  by_cases renders : ppu.rendersLine = true
  · have left : ppu.leaveOutDot.lineup = ppu.lineup := by
      rw [leaveOutDot_eq]
      split <;> rfl
    have cases := here.leftOut_cases
    have elsewhere : place + ppu.leftOut ≠ 1 := by omega
    rw [(ppu.sides_composing slot renders).2, here.renderDot_of_early slot early,
      here.leaveOutDot.clearFlags_of_ne elsewhere, left]
  · rw [Ppu.composing, if_neg renders]
    exact (stage_eq_iff.1 (stage_beginBlank ppu)).2.2

/-- The sprites of the last frame end just before the picture. -/
theorem lineup_composing_of_first (first : place = 1) :
    (ppu.composing slot).lineup = ppu.lineup.deselect := by
  subst first
  have renders : ppu.rendersLine = true := here.rendersLine_iff.2 (by decide)
  have stays := here.leaveOutDot_of_ne (by decide)
  rw [(ppu.sides_composing slot renders).2, here.renderDot_of_early slot (by decide), stays,
    Ppu.clearFlags, if_pos ((here.isAt_iff (-1) 1 1 rfl rfl).2 rfl)]
  rfl

/-- Where no sprites are selected or fetched, they move with the tiles at most. -/
theorem lineup_composing_of_plain (renders : place < 341 * 241) (later : 2 ≤ place % 341)
    (notLast : ¬(place % 341 = 257 ∧ 341 ≤ place)) (notEnd : place % 341 ≠ 340) :
    (ppu.composing slot).lineup
      = if ppu.mask.showSprites = true ∧ place % 341 < 258 then ppu.lineup.shift
        else ppu.lineup := by
  have there := (here.runPipelines slot).moveToNextLine slot
  rw [(ppu.sides_composing slot (here.rendersLine_iff.2 renders)).2,
    here.renderDot_of_later slot later, there.runSprites_of_idle slot notLast notEnd, lineup,
    here.sprites_moveToNextLine slot later]
  split
  · exact ppu.sprites.unmarked_shift
  · rfl

end StandsAt

end Nes.Ppu
