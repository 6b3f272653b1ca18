import Nes.Proofs.Ppu.TileStream

/-!
# The background of a frame

The pipeline draws what the nametables show. While a line is drawn, its stream runs two tiles ahead
of the picture, and the stream of the next line begins behind the picture. `Ready` says, for each
place of a frame, which line and tile the scroll word names there and what the pipeline holds; every
dot carries it on to the next place (`Ready.clock`), whatever the chip held when the frame began.
So the background of a dot is a direct look-up in the nametables (`background_of_frame`).
-/
namespace Nes.Ppu

variable {κ : Type} [CartridgeSide κ]

/-- The stream of the same tiles a number of lines down. -/
def TileStream.down (first : TileStream) (count : Nat) : TileStream :=
  { first with line := first.line.down count }

/-- The line that the scroll word names: it goes on to the next one before dot 257. -/
def scrollLine (place : Nat) : Nat := (place + (341 - 257)) / 341 - 1

/-- The line whose columns the pipeline holds: they are drawn up to dot 256. -/
def streamLine (place : Nat) : Nat := (place + (341 - 258)) / 341 - 1

/-- How many columns have entered before a dot: sixteen before the picture, and one more with every
dot of it. -/
def entered (dot : Nat) : Nat := if dot < 258 then 14 + max 2 dot else min (dot - 322) 16

/-- The background side is ready for a place of the frame. Line -1 only prepares the first line of
the picture, so nothing is asked for before it takes over the scroll word. -/
structure Ready (first : TileStream) (place : Nat) (side : TileSide) : Prop where
  /-- Once the top of the picture is taken over, the scroll word is on the line to be fetched. -/
  line : 281 ≤ place → side.scroll.sourceLine = first.line.down (scrollLine place)
  /-- It is on the tile that enters next, but for the dot that goes back to the left edge. -/
  column : 258 ≤ place → place % 341 ≠ 257 →
    side.scroll.sourceTile = first.tile (entered (place % 341) + 1)
  /-- Wherever columns enter or are drawn, the pipeline is at work on them. -/
  streaming : 322 ≤ place → place % 341 < 258 ∨ 322 ≤ place % 341 →
    Streaming (first.down (streamLine place)) (entered (place % 341))
      (entered (place % 341) % 8) side.background

/-- Nothing is asked for at the first place of a frame. -/
theorem Ready.first (first : TileStream) (side : TileSide) : Ready first 0 side where
  line late := absurd late (by decide)
  column late := absurd late (by decide)
  streaming late := absurd late (by decide)

namespace Ready

variable {first : TileStream} {ppu : Ppu} {slot : κ} {place : Nat}
  (ready : Ready first place ppu.tiles) (here : StandsAt ppu place) (renders : place < 341 * 241)
  (serves : Serves ppu slot first)

include ready here

/-- The first two dots of a line, of which one may be left out. -/
theorem early (early : place % 341 < 2) :
    Ready first (place + ppu.leftOut + 1) (ppu.composing slot).tiles := by
  have next : (place + ppu.leftOut + 1) / 341 = place / 341 ∧
      (place + ppu.leftOut + 1) % 341 ≤ 2 := by
    have cases := here.leftOut_cases
    omega
  have sameEntered : entered ((place + ppu.leftOut + 1) % 341) = entered (place % 341) := by
    rw [entered, entered, if_pos (by omega), if_pos (by omega)]
    omega
  have sameScroll : scrollLine (place + ppu.leftOut + 1) = scrollLine place := by
    unfold scrollLine
    omega
  have sameStream : streamLine (place + ppu.leftOut + 1) = streamLine place := by
    unfold streamLine
    omega
  rw [here.tiles_composing_of_early slot early]
  constructor
  · intro late
    rw [sameScroll]
    exact ready.line (by omega)
  · intro late _
    rw [sameEntered]
    exact ready.column (by omega) (by omega)
  · intro late _
    rw [sameStream, sameEntered]
    exact ready.streaming (by omega) (by omega)

include serves

/-- A dot that moves the stream on. -/
theorem scanning (late : 322 ≤ place)
    (busy : 2 ≤ place % 341 ∧ place % 341 < 257 ∨ 322 ≤ place % 341 ∧ place % 341 < 338) :
    Scanning (first.down (streamLine place)) (entered (place % 341) + 1)
      (ppu.runPipelines slot).tiles := by
  have lines : scrollLine place = streamLine place := by
    unfold scrollLine streamLine
    omega
  have scanning : Scanning (first.down (streamLine place)) (entered (place % 341)) ppu.tiles :=
    ⟨ready.streaming late (by omega), by rw [ready.line (by omega), lines]; rfl,
      ready.column (by omega) (by omega)⟩
  refine scanning.next here (by omega) ?_ ⟨serves.shown, serves.control, serves.reads⟩
  rw [entered]
  split <;> omega

include renders

/-- The dots that move the stream on and do nothing else. -/
theorem stream
    (busy : 2 ≤ place % 341 ∧ place % 341 < 256 ∨ 322 ≤ place % 341 ∧ place % 341 < 338) :
    Ready first (place + 1) (ppu.composing slot).tiles := by
  have dot : (place + 1) % 341 = place % 341 + 1 := by omega
  have moved := here.runPipelines slot
  have next : entered (place % 341 + 1) = entered (place % 341) + 1 := by
    rw [entered, entered]
    split <;> split <;> omega
  have lines : scrollLine (place + 1) = streamLine place ∧
      streamLine (place + 1) = streamLine place := by
    unfold scrollLine streamLine
    omega
  rw [here.tiles_composing slot renders (by omega),
    moved.moveToNextLine_of_idle slot (by omega) (by omega) (by omega) (by omega)]
  by_cases late : 322 ≤ place
  · obtain ⟨streaming, line, tile⟩ := ready.scanning here serves late (by omega)
    refine ⟨fun _ => ?_, fun _ _ => ?_, fun _ _ => ?_⟩
    · rw [lines.1]
      exact line
    · rw [dot, next]
      exact tile
    · rw [dot, next, lines.2]
      exact streaming
  · exact ⟨fun later => absurd later (by omega), fun later => absurd later (by omega),
      fun later => absurd later (by omega)⟩

/-- The last dot of the picture on a line. -/
theorem last (last : place % 341 = 256) : Ready first (place + 1) (ppu.composing slot).tiles := by
  have moved := here.runPipelines slot
  have rendering := (serves.of_held ((DotPhase.runPipelines slot).held ppu) rfl rfl).rendering
  have dot : (place + 1) % 341 = place % 341 + 1 := by omega
  have next : entered (place % 341 + 1) = entered (place % 341) + 1 := by
    rw [last]
    rfl
  rw [here.tiles_composing slot renders (by omega), moved.moveToNextLine_of_last slot last,
    moveScroll_of_rendering rendering]
  by_cases late : 322 ≤ place
  · obtain ⟨streaming, line, -⟩ := ready.scanning here serves late (by omega)
    refine ⟨fun _ => ?_, fun _ other => absurd (dot.trans (by rw [last])) other, fun _ _ => ?_⟩
    · have down : scrollLine (place + 1) = streamLine place + 1 := by
        unfold scrollLine streamLine
        omega
      have next := (ppu.runPipelines slot).scroll.source_nextLine.2
      rw [down]
      exact next.trans (congrArg SourceLine.below line)
    · have same : streamLine (place + 1) = streamLine place := by
        unfold streamLine
        omega
      rw [dot, next, same]
      exact streaming
  · exact ⟨fun later => absurd later (by omega), fun later => absurd later (by omega),
      fun later => absurd later (by omega)⟩

/-- The dot behind the picture. -/
theorem behind (behind : place % 341 = 257) (tile : ppu.nextScroll.sourceTile = first.tile 0) :
    Ready first (place + 1) (ppu.composing slot).tiles := by
  have moved := here.runPipelines slot
  have held := (DotPhase.runPipelines slot).held ppu
  have rendering := (serves.of_held held rfl rfl).rendering
  have loaded : (ppu.runPipelines slot).loadBackground.mask.rendering = true := rendering
  have scroll : (ppu.runPipelines slot).scroll = ppu.scroll := by
    have step := here.shiftPipelines.toNatClampNeg_dot (by omega)
    have kept := congrArg TileSide.scroll (tiles_shiftPipelines serves.shown)
    rw [here.runPipelines_of_busy slot (by omega), Ppu.fetchBackground, step, behind]
    exact kept
  have lines : scrollLine (place + 1) = scrollLine place := by
    unfold scrollLine
    omega
  have dot : (place + 1) % 341 = 258 := by omega
  have source : (ppu.runPipelines slot).nextScroll = ppu.nextScroll := congrArg Held.nextScroll held
  have copied := ppu.scroll.source_copyHorizontal ppu.nextScroll
  rw [here.tiles_composing slot renders (by omega), moved.moveToNextLine_of_return slot behind,
    moveScroll_of_rendering loaded, source]
  change Ready first (place + 1) ⟨_, (ppu.runPipelines slot).scroll.copyHorizontal _⟩
  rw [scroll]
  refine ⟨fun late => ?_, fun _ _ => ?_, fun _ away => absurd away (by omega)⟩
  · rw [lines]
    exact copied.2.trans (ready.line (by omega))
  · rw [dot]
    exact copied.1.trans tile

/-- The dots up to the next stream. -/
theorem idle (idle : 258 ≤ place % 341 ∧ place % 341 < 321)
    (line : ppu.nextScroll.sourceLine = first.line) :
    Ready first (place + 1) (ppu.composing slot).tiles := by
  have lines : scrollLine (place + 1) = scrollLine place := by
    unfold scrollLine
    omega
  have columns : entered ((place + 1) % 341) = entered (place % 341) := by
    rw [entered, entered, if_neg (by omega), if_neg (by omega)]
    omega
  rw [here.tiles_composing slot renders (by omega), here.runPipelines_of_idle slot (by omega)]
  by_cases top : 280 ≤ place ∧ place < 305
  · have copied := ppu.scroll.source_copyVertical ppu.nextScroll
    have first : scrollLine place = 0 := by
      unfold scrollLine
      omega
    rw [here.moveToNextLine_of_top slot top, moveScroll_of_rendering serves.rendering]
    refine ⟨fun _ => ?_, fun _ _ => ?_, fun _ away => absurd away (by omega)⟩
    · rw [lines, first]
      exact copied.2.trans line
    · rw [columns]
      exact copied.1.trans (ready.column (by omega) (by omega))
  · rw [here.moveToNextLine_of_idle slot (by omega) (by omega) (by omega) top]
    refine ⟨fun late => ?_, fun _ _ => ?_, fun _ away => absurd away (by omega)⟩
    · rw [lines]
      exact ready.line (by omega)
    · rw [columns]
      exact ready.column (by omega) (by omega)

/-- The first dot of a stream. -/
theorem begins (begins : place % 341 = 321) :
    Ready first (place + 1) (ppu.composing slot).tiles := by
  have moved := here.runPipelines slot
  have dot : (place + 1) % 341 = 322 := by omega
  have lines : scrollLine (place + 1) = scrollLine place ∧
      streamLine (place + 1) = scrollLine place := by
    unfold scrollLine streamLine
    omega
  have tile := ready.column (by omega) (by omega)
  rw [begins] at tile
  obtain ⟨streaming, line, tile⟩ := Scanning.begins (first.down (scrollLine place)) here
    begins (ready.line (by omega)) tile ⟨serves.shown, serves.control, serves.reads⟩
  rw [here.tiles_composing slot renders (by omega),
    moved.moveToNextLine_of_idle slot (by omega) (by omega) (by omega) (by omega)]
  refine ⟨fun _ => ?_, fun _ _ => ?_, fun _ _ => ?_⟩
  · rw [lines.1]
    exact line
  · rw [dot]
    exact tile
  · rw [dot, lines.2]
    exact streaming

/-- The last dots of a line fetch the number of a tile that is known already. -/
theorem unused (unused : 338 ≤ place % 341) :
    Ready first (place + 1) (ppu.composing slot).tiles := by
  have lines : scrollLine (place + 1) = scrollLine place ∧
      streamLine (place + 1) = streamLine place ∧ scrollLine place = streamLine place := by
    unfold scrollLine streamLine
    omega
  have columns : entered ((place + 1) % 341) = 16 ∧ entered (place % 341) = 16 := by
    unfold entered
    split <;> split <;> omega
  have line := ready.line (by omega)
  have tile := ready.column (by omega) (by omega)
  have streaming := ready.streaming (by omega) (by omega)
  have number : ppu.readVideo slot ppu.scroll.tileAddress = ppu.background.nextTile := by
    have sameLine : ppu.scroll.sourceLine = (first.down (streamLine place)).line := by
      rw [← lines.2.2]
      exact line
    have sameTile : ppu.scroll.sourceTile = first.tile (entered (place % 341)) := by
      rw [columns.2, ← first.tile_succ (by decide), ← columns.2]
      exact tile
    rw [serves.reads.tileNumber, sameLine, sameTile]
    exact streaming.tile.symm
  have known : ((ppu.runPipelines slot).moveToNextLine slot).tiles = ppu.tiles := by
    rw [here.runPipelines_of_idle slot (by omega)]
    by_cases fetches : place % 341 = 338 ∨ place % 341 = 340
    · rw [here.moveToNextLine_of_unused slot fetches]
      exact congrArg (fun fetched => TileSide.mk { ppu.background with nextTile := fetched }
        ppu.scroll) number
    · rw [here.moveToNextLine_of_idle slot (by omega) (by omega) fetches (by omega)]
  rw [here.tiles_composing slot renders (by omega), known]
  refine ⟨fun _ => ?_, fun _ _ => ?_, fun _ _ => ?_⟩
  · rw [lines.1]
    exact line
  · rw [columns.1, ← columns.2]
    exact tile
  · rw [columns.1, lines.2.1, ← columns.2]
    exact streaming

/-- Every dot carries the background side on to the next place. -/
theorem composing (line : ppu.nextScroll.sourceLine = first.line)
    (tile : ppu.nextScroll.sourceTile = first.tile 0) :
    Ready first (place + ppu.leftOut + 1) (ppu.composing slot).tiles := by
  by_cases early : place % 341 < 2
  · exact ready.early here early
  · have none := here.leftOut_of_ne (by omega)
    rw [none, Nat.add_zero]
    rcases Nat.lt_trichotomy (place % 341) 256 with within | last | later
    · exact ready.stream here renders serves (.inl (by omega))
    · exact ready.last here renders serves last
    rcases (by omega : place % 341 = 257 ∨ 258 ≤ place % 341 ∧ place % 341 < 321 ∨
      place % 341 = 321 ∨ 322 ≤ place % 341 ∧ place % 341 < 338 ∨ 338 ≤ place % 341) with
      behind | idle | begins | ahead | unused
    · exact ready.behind here renders serves behind tile
    · exact ready.idle here renders serves idle line
    · exact ready.begins here renders serves begins
    · exact ready.stream here renders serves (.inr ahead)
    · exact ready.unused here renders serves unused

end Ready

/-- The cartridge answers reads and mirrors in the same way for a number of dots. -/
def Steady (ppu : Ppu) (slot : κ) (dots : Nat) : Prop :=
  ∀ count < dots,
    CartridgeSide.readCharacter (ppu.clocked slot count).2 = CartridgeSide.readCharacter slot ∧
      CartridgeSide.mirroring (ppu.clocked slot count).2 = CartridgeSide.mirroring slot

/-- An open slot answers every read in the same way. -/
theorem steady_openSlot (ppu : Ppu) (slot : OpenSlot) (dots : Nat) : Steady ppu slot dots := by
  have mirroring (count : Nat) : (ppu.clocked slot count).2.mirroring = slot.mirroring := by
    induction count with
    | zero => rfl
    | succ count ih =>
      rw [← ih, clocked]
      dsimp only
      rw [DotPhase.clock_slot]
      split <;> rfl
  exact fun count _ => ⟨rfl, mirroring count⟩

/-- The stream of the first line of a picture: it comes from the scroll word that is being
written. -/
def firstStream (ppu : Ppu) (slot : κ) : TileStream where
  video := ppu.videoAt slot
  control := ppu.control
  line := ppu.nextScroll.sourceLine
  start := ppu.nextScroll.sourceTile

section Frame

variable {ppu : Ppu} {slot : κ} {dots : Nat} (shown : ppu.mask.showBackground = true)
  (steady : Steady ppu slot dots) (first : StandsAt ppu 0)

include shown steady

/-- As many dots into the picture, the chip still serves the stream of tiles that it began with. -/
theorem serves_clocked (count : Nat) (within : count < dots) :
    Serves (ppu.clocked slot count).1 (ppu.clocked slot count).2 (ppu.firstStream slot) := by
  have serves : Serves ppu slot (ppu.firstStream slot) := ⟨shown, rfl, ppu.reads_videoAt slot⟩
  exact serves.of_held (ppu.held_clocked slot count) (steady count within).1 (steady count within).2

include first

/-- A dot of the frame carries the background side on to the next place. -/
theorem Ready.composingAfter (count : Nat) (within : count < dots)
    (renders : count + ppu.leftOutWithin 0 count < 341 * 241)
    (ready : Ready (ppu.firstStream slot) (count + ppu.leftOutWithin 0 count)
      (ppu.clocked slot count).1.tiles) :
    Ready (ppu.firstStream slot) (count + 1 + ppu.leftOutWithin 0 (count + 1))
      (ppu.composingAfter slot count).tiles := by
  have held := ppu.held_clocked slot count
  have source : (ppu.clocked slot count).1.nextScroll = ppu.nextScroll :=
    congrArg Held.nextScroll held
  obtain ⟨there, odd, -⟩ := first.clocked slot count (by omega)
  rw [Nat.zero_add] at there
  have together : ppu.leftOutWithin 0 count + (ppu.clocked slot count).1.leftOut
      = ppu.leftOutWithin 0 (count + 1) :=
    StandsAt.leftOutWithin_succ (by rwa [Nat.zero_add]) odd (congrArg Held.mask held)
  have serves := serves_clocked shown steady count within
  have next := ready.composing there renders serves (by rw [source]; rfl)
    (by rw [source]; exact (Nat.mod_eq_of_lt ppu.nextScroll.sourceTile_lt).symm)
  have place : count + ppu.leftOutWithin 0 count + (ppu.clocked slot count).1.leftOut + 1
      = count + 1 + ppu.leftOutWithin 0 (count + 1) := by
    omega
  rwa [place] at next

/-- The background side is ready for every place of the picture. -/
theorem ready_clocked (count : Nat) (within : count ≤ dots)
    (renders : count + ppu.leftOutWithin 0 count ≤ 341 * 241) :
    Ready (ppu.firstStream slot) (count + ppu.leftOutWithin 0 count)
      (ppu.clocked slot count).1.tiles := by
  induction count with
  | zero =>
    rw [leftOutWithin_zero]
    exact Ready.first _ _
  | succ count ih =>
    have fewer := ppu.leftOutWithin_le_succ 0 count
    rw [clocked_ppu_succ, (sides_clock _ _).1]
    exact Ready.composingAfter shown steady first count within (by omega) (ih (by omega) (by omega))

end Frame

/-- The background pipeline draws the scrolled nametables. A frame runs from the first dot of line
-1, without an access to a register and with a cartridge that answers alike for as long as the
picture is drawn. When the chip decides on the pixel of column `x` of line `y`, the background is
the pixel of the picture in the nametables that lies `y` lines below the one the scroll registers
name, and `x` columns to the right. -/
theorem backgroundCandidate_of_frame (ppu : Ppu) (slot : κ) (line : ppu.line = -1)
    (dot : ppu.dot = 0) (shown : ppu.mask.showBackground = true)
    (shownLeft : ppu.mask.showBackgroundLeft = true) (fine : ppu.fineX < 8)
    (steady : Steady ppu slot (341 * 241)) (x y : Nat) (column : x < 256) (row : y < 240) :
    let composing := ppu.composingAfter slot (ppu.dotsBefore (341 * (y + 1) + (x + 1)))
    composing.line.toInt = y ∧ composing.dot.toInt = x + 1 ∧
      composing.backgroundCandidate
        = backgroundAt (ppu.videoAt slot) ppu.control (ppu.nextScroll.sourceLine.down y)
          ((256 * ppu.nextScroll.nametableX.toNat + 8 * ppu.nextScroll.coarseX.toNat
            + ppu.fineX.toNat + x) % 512) := by
  have first : StandsAt ppu 0 := ⟨by decide, by rw [line]; rfl, by rw [dot]; rfl⟩
  have time := ppu.dotsBefore_add (341 * (y + 1) + (x + 1)) (by omega)
  generalize ppu.dotsBefore (341 * (y + 1) + (x + 1)) = count at time ⊢
  have fewer := ppu.leftOutWithin_le_succ 0 count
  have there := first.composingAfter slot count (by omega)
  have ready := Ready.composingAfter shown steady first count (by omega) (by omega)
    (ready_clocked shown steady first count (by omega) (by omega))
  have held := ppu.held_composingAfter slot count
  dsimp only
  generalize ppu.composingAfter slot count = composing at *
  rw [Nat.zero_add, time] at there
  rw [Nat.add_right_comm, time] at ready
  have streaming := ready.streaming (by omega) (by omega)
  refine ⟨?_, ?_, ?_⟩
  · rw [there.line]
    omega
  · rw [there.dot]
    omega
  · have mask : composing.mask = ppu.mask := congrArg Held.mask held
    have fineX : composing.fineX = ppu.fineX := congrArg Held.fineX held
    have lines : streamLine (341 * (y + 1) + (x + 1) + 1) = y := by
      unfold streamLine
      omega
    have columns : entered ((341 * (y + 1) + (x + 1) + 1) % 341) = 16 + x := by
      rw [entered, if_pos (by omega)]
      omega
    rw [lines, columns] at streaming
    have candidate := streaming.registers.candidate (UInt8.lt_iff_toNat_lt.1 fine)
    have visible : (composing.mask.showBackground
        && (9 ≤ composing.dot || composing.mask.showBackgroundLeft)) = true := by
      rw [mask, shown, shownLeft, Bool.or_true, Bool.and_true]
    rw [backgroundCandidate, if_pos visible, fineX]
    refine candidate.trans ?_
    have source : 8 * ppu.nextScroll.sourceTile + (x + ppu.fineX.toNat)
        = 256 * ppu.nextScroll.nametableX.toNat + 8 * ppu.nextScroll.coarseX.toNat
            + ppu.fineX.toNat + x := by
      rw [Scroll.sourceTile]
      omega
    rw [← source]
    rfl

/-- A chip at the start of an odd frame, with a scroll word near the lower and the right seam of a
nametable. -/
def nearSeams : Ppu :=
  { powerOn with line := -1, mask := ⟨0x0A⟩, oddFrame := true, nextScroll := ⟨0x7BFF⟩, fineX := 5 }

/-- The second line of its picture is taken from the first row, and the fourth column from the
nametable to the right. -/
theorem backgroundCandidate_of_frame_nearSeams :
    let slot : OpenSlot := ⟨.vertical, 0⟩
    (nearSeams.composingAfter slot 685).backgroundCandidate
      = backgroundAt (nearSeams.videoAt slot) ⟨0⟩ ⟨1, 0, 0⟩ 256 := by
  have drawn := backgroundCandidate_of_frame nearSeams (⟨.vertical, 0⟩ : OpenSlot) rfl rfl rfl rfl
    (by decide) (steady_openSlot _ _ _) 3 1 (by decide) (by decide)
  have time : nearSeams.dotsBefore (341 * (1 + 1) + (3 + 1)) = 685 := by decide
  have line : nearSeams.nextScroll.sourceLine.down 1 = ⟨1, 0, 0⟩ := by decide
  rw [time, line] at drawn
  exact drawn.2.2

end Nes.Ppu
