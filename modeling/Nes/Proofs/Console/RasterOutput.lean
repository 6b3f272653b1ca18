import Nes.Proofs.Console.Redraw
import Nes.Proofs.Ppu.FrameWalk

/-!
# The pixels of a frame

The ticks of a console are a walk of its picture chip through the frame, whatever its program and
its cartridge do meanwhile. So from the start of a frame, or from the first dot of the picture where
a reset leaves the chip, the screen is given every pixel of the picture once, from left to right and
line by line, or none of them where the frame is not drawn (`Console.places_pixels_frame`). That
holds of the frames that leave out a dot too, and of frames that are run as a whole.
-/
namespace Nes.Console

variable (console : Console)

/-- A run ends with its last tick. -/
theorem run_succ_last (ticks : Nat) : console.run (ticks + 1) = (console.run ticks).tick := by
  induction ticks generalizing console with
  | zero => rfl
  | succ ticks ih => rw [run_succ, ih, run_succ]

/-- The pixels that a number of ticks draw. -/
def pixels (ticks : Nat) : List Pixel :=
  console.machine.pixelsDrawn (List.replicate ticks .tick)

/-- The first tick comes before the others. -/
theorem pixels_succ (ticks : Nat) :
    console.pixels (ticks + 1) = console.machine.tick.1.toList ++ console.tick.pixels ticks := by
  rw [pixels, pixels, machine_tick, List.replicate_succ, Machine.pixelsDrawn, Machine.shown,
    List.filterMap_cons, Machine.act]
  generalize console.machine.tick = ticked
  obtain ⟨pixel, machine⟩ := ticked
  cases pixel <;> rfl

/-- Each tick draws the pixel of its dot, if the dot has one. -/
theorem pixels_eq_filterMap (ticks : Nat) :
    console.pixels ticks = (List.range ticks).filterMap fun tick =>
      ((console.run tick).chip.clock (console.run tick).machine.bus.slot).pixel := by
  induction ticks generalizing console with
  | zero => rfl
  | succ ticks ih =>
    have first : console.machine.tick.1 = (console.chip.clock console.machine.bus.slot).pixel :=
      console.machine.pixel_tick
    rw [pixels_succ, ih, first, List.filterMap_eq_flatMap_toList, List.filterMap_eq_flatMap_toList,
      List.range_succ_eq_map, List.flatMap_cons, List.flatMap_map]
    simp only [run]

/-- The screen after pixels in order. -/
def drawAll (screen : Screen) (pixels : List Pixel) : Screen :=
  pixels.foldl (fun screen pixel => screen.draw (some pixel)) screen

/-- These pixels are all that the screen is given. -/
theorem screen_run (ticks : Nat) :
    (console.run ticks).screen = drawAll console.screen (console.pixels ticks) := by
  induction ticks generalizing console with
  | zero => rfl
  | succ ticks ih =>
    have drawn : console.tick.screen = drawAll console.screen console.machine.tick.1.toList := by
      obtain ⟨machine, screen⟩ := console
      simp only [tick]
      cases machine.tick.1 <;> rfl
    rw [run_succ, ih, drawn, pixels_succ, drawAll, drawAll, drawAll, List.foldl_append]

variable {console} {start : Nat}

/-- Ticks are a walk. -/
theorem frameWalk_run (early : start ≤ 341) (here : console.chip.StandsAt start) :
    Ppu.FrameWalk (fun tick => (console.run tick).chip)
      (fun tick => (console.run tick).machine.bus.slot) start where
  early := early
  here := here
  next tick := by
    rw [run_succ_last, chip, machine_tick]
    exact Machine.raster_tick _

/-- A run is about to do the last dot of a frame for the first time. -/
structure LastDotAt (console : Console) (last : Nat) : Prop where
  /-- It comes next. -/
  reached : (console.run last).AtLastDot
  /-- It has not come before. -/
  first : ∀ earlier < last, ¬(console.run earlier).AtLastDot

/-- The last dot of a frame comes for the first time only once. -/
theorem LastDotAt.unique {last other : Nat} (left : console.LastDotAt last)
    (right : console.LastDotAt other) : last = other := by
  rcases Nat.lt_trichotomy last other with less | same | more
  · exact absurd left.reached (right.first last less)
  · exact same
  · exact absurd right.reached (left.first other more)

/-- A walk through the frame comes to its last dot once. -/
theorem lastDotAt_of_walk (early : start ≤ 341) (here : console.chip.StandsAt start) :
    console.LastDotAt (Ppu.dotsFrom (fun tick => (console.run tick).chip) start - 1) := by
  have walk := frameWalk_run early here
  have inside := Nat.sub_one_lt_of_lt walk.dotsFrom_pos
  constructor
  case reached => exact (atLastDot_iff walk.standsAt_last).2 rfl
  case first =>
    intro earlier less last
    have there := (walk.standsAt (Nat.lt_trans less inside)).1
    have place := (atLastDot_iff there).1 last
    have same := Ppu.placeFrom_inj (place.trans walk.placeFrom_last.symm)
    omega

/-- The ticks up to the last dot of a frame complete it, and draw all of its picture or nothing. -/
theorem places_pixels_of_standsAt (early : start ≤ 341) (here : console.chip.StandsAt start) :
    ∃ last, console.LastDotAt last ∧
      (console.run (last + 1)).chip.frameComplete = true ∧
      (∀ tick, (console.run tick).chip.drawsFrame = console.chip.drawsFrame) ∧
      (console.pixels (last + 1)).map Pixel.place
        = if console.chip.drawsFrame then Ppu.rasterOrder else [] := by
  have walk := frameWalk_run early here
  have dots := Nat.sub_add_cancel walk.dotsFrom_pos
  refine ⟨_, lastDotAt_of_walk early here, ?_, walk.drawsFrame, ?_⟩
  · exact (Ppu.frameComplete_of_grid (walk.grid_next _)).trans walk.clock_last.2.2
  · rw [dots, pixels_eq_filterMap, List.map_filterMap]
    exact walk.places_pixels

/-- From the start of a frame, or from the first dot of the picture, the ticks up to the last dot
complete the frame. They draw every pixel of the picture once and in order if the frame is drawn,
and none otherwise. So does a frame that is run as a whole, and the screen is given nothing else. -/
theorem places_pixels_frame (line : console.chip.line = -1 ∨ console.chip.line = 0)
    (dot : console.chip.dot = 0) :
    (∃ last, console.LastDotAt last ∧
      (console.run (last + 1)).chip.frameComplete = true ∧
      (∀ tick, (console.run tick).chip.drawsFrame = console.chip.drawsFrame) ∧
      (console.pixels (last + 1)).map Pixel.place
        = if console.chip.drawsFrame then Ppu.rasterOrder else []) ∧
    (console.chip.frameComplete = false → ∀ draw, ∃ drawn : List Pixel,
      (console.runFrame draw).screen = drawAll console.screen drawn ∧
      drawn.map Pixel.place = if draw then Ppu.rasterOrder else []) := by
  obtain ⟨start, early, here⟩ : ∃ start ≤ 341, console.chip.StandsAt start := by
    rcases line with before | first
    · exact ⟨0, by decide, by decide, by rw [before]; rfl, by rw [dot]; rfl⟩
    · exact ⟨341, by decide, by decide, by rw [first]; rfl, by rw [dot]; rfl⟩
  refine ⟨places_pixels_of_standsAt early here, ?_⟩
  intro incomplete draw
  obtain ⟨count, -, reached, ends⟩ := runFrame_of_incomplete here incomplete draw
  have chosen : (console.choosing draw).chip.StandsAt start := here.of_grid rfl
  obtain ⟨last, ending, -, -, places⟩ := places_pixels_of_standsAt early chosen
  have same : last = count := ending.unique ⟨ends.last, ends.notLast⟩
  refine ⟨(console.choosing draw).pixels (count + 1), ?_, ?_⟩
  · rw [reached, screen_told, screen_run]
    rfl
  · rw [← same]
    exact places

/-- The first frame that a console draws after power-on gives its screen the whole picture. -/
theorem places_pixels_frame_powerOn :
    powerOn.chip.line = 0 ∧ powerOn.chip.dot = 0 ∧ powerOn.chip.frameComplete = false ∧
      ∃ drawn : List Pixel, (powerOn.runFrame true).screen = drawAll .blank drawn ∧
        drawn.map Pixel.place = Ppu.rasterOrder :=
  ⟨rfl, rfl, rfl, (places_pixels_frame (.inr rfl) rfl).2 rfl true⟩

end Nes.Console
