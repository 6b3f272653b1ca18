import Nes.Proofs.Ppu.PicturePlaces
import Nes.Proofs.Ppu.Raster

/-!
# A walk through a frame

Between two dots of the picture chip anything may happen that does not reach its raster: the
processor accesses registers, and a machine does much besides. The chips from dot to dot form a walk
through the frame (`Ppu.FrameWalk`). Where it goes, when the frame ends, and at which places of the
picture it makes pixels, is settled by where it starts, except that it may leave out the first dot
of the picture. That is decided by the chip that comes there, so what was written to the mask before
or after has no part in it.
-/
namespace Nes.Ppu

variable {κ : Type} [CartridgeSide κ]

/-- Chips and slots from dot to dot of a frame, with nothing between two dots that reaches the
raster. -/
structure FrameWalk (chip : Nat → Ppu) (slot : Nat → κ) (start : Nat) : Prop where
  /-- The walk starts before the picture or at its first dot. -/
  early : start ≤ 341
  /-- The first chip is there. -/
  here : StandsAt (chip 0) start
  /-- The raster goes on by dots. -/
  next : ∀ count, (chip (count + 1)).raster = ((chip count).clock (slot count)).ppu.raster

variable {chip : Nat → Ppu} {slot : Nat → κ} {start : Nat}

/-- The number of places that a walk leaves out. -/
def leftOutFrom (chip : Nat → Ppu) (start : Nat) : Nat := (chip (341 - start)).leftOut

/-- The place of a walk before a dot. -/
def placeFrom (chip : Nat → Ppu) (start count : Nat) : Nat :=
  start + count + if 341 < start + count then leftOutFrom chip start else 0

/-- The number of dots from the start of a walk to the end of the frame. -/
def dotsFrom (chip : Nat → Ppu) (start : Nat) : Nat := 341 * 262 - start - leftOutFrom chip start

/-- A walk leaves out one place at most. -/
theorem leftOutFrom_le (chip : Nat → Ppu) (start : Nat) : leftOutFrom chip start ≤ 1 := by
  rw [leftOutFrom, leftOut]
  split <;> omega

/-- A walk begins at the place where it starts. -/
theorem placeFrom_zero (early : start ≤ 341) : placeFrom chip start 0 = start := by
  rw [placeFrom, if_neg (by omega)]
  rfl

/-- Its dots take a walk to the end of the frame. -/
theorem placeFrom_dotsFrom (early : start ≤ 341) :
    placeFrom chip start (dotsFrom chip start) = 341 * 262 := by
  have few := leftOutFrom_le chip start
  rw [placeFrom, dotsFrom, if_pos (by omega)]
  omega

/-- A walk comes to no place twice. -/
theorem placeFrom_inj {count other : Nat}
    (same : placeFrom chip start count = placeFrom chip start other) : count = other := by
  rw [placeFrom, placeFrom] at same
  split at same <;> split at same <;> omega

namespace FrameWalk

/-- The dots before the first one of the picture leave out nothing, and neither do those behind it,
so the place after a dot is known. -/
theorem placeFrom_succ {count : Nat} (there : StandsAt (chip count) (placeFrom chip start count)) :
    placeFrom chip start count + (chip count).leftOut + 1 = placeFrom chip start (count + 1) := by
  by_cases first : start + count = 341
  · have same : chip (341 - start) = chip count := congrArg chip (by omega)
    rw [placeFrom, if_neg (by omega), placeFrom, if_pos (by omega), leftOutFrom, same]
    omega
  · have elsewhere : placeFrom chip start count ≠ 341 := by
      rw [placeFrom]
      split <;> omega
    rw [there.leftOut_of_ne elsewhere, placeFrom, placeFrom]
    split <;> split <;> omega

variable (walk : FrameWalk chip slot start)

include walk

/-- From dot to dot only the clock moves the chip over the grid. -/
theorem grid_next (count : Nat) :
    (chip (count + 1)).grid = ((chip count).clock (slot count)).ppu.grid :=
  congrArg Raster.grid (walk.next count)

/-- Every dot before the end of the frame is where it should be. -/
theorem standsAt {count : Nat} (before : count < dotsFrom chip start) :
    StandsAt (chip count) (placeFrom chip start count) ∧
      (chip count).oddFrame = (chip 0).oddFrame ∧
      (chip count).frameComplete = (chip 0).frameComplete := by
  induction count with
  | zero =>
    rw [placeFrom_zero walk.early]
    exact ⟨walk.here, rfl, rfl⟩
  | succ count ih =>
    obtain ⟨there, odd, complete⟩ := ih (by omega)
    have next := placeFrom_succ there
    have inside : placeFrom chip start (count + 1) < 341 * 262 := by
      rw [dotsFrom] at before
      rw [placeFrom]
      split <;> omega
    obtain ⟨after, sameOdd, sameComplete⟩ := there.clock (slot count) (by omega)
    have grid := walk.grid_next count
    rw [next] at after
    exact ⟨after.of_grid grid, (oddFrame_of_grid grid).trans (sameOdd.trans odd),
      (frameComplete_of_grid grid).trans (sameComplete.trans complete)⟩

/-- No dot changes the choice whether to draw. -/
theorem drawsFrame (count : Nat) : (chip count).drawsFrame = (chip 0).drawsFrame := by
  induction count with
  | zero => rfl
  | succ count ih =>
    exact (drawsFrame_of_raster (walk.next count)).trans
      (((chip count).drawsFrame_clock (slot count)).trans ih)

/-- A walk has at least one dot to the end of its frame. -/
theorem dotsFrom_pos : 0 < dotsFrom chip start := by
  have early := walk.early
  have few := leftOutFrom_le chip start
  rw [dotsFrom]
  omega

/-- The last dot of the frame is at its last place. -/
theorem placeFrom_last : placeFrom chip start (dotsFrom chip start - 1) = 341 * 262 - 1 := by
  have some := walk.dotsFrom_pos
  have there := (walk.standsAt (Nat.sub_one_lt_of_lt some)).1
  have next := placeFrom_succ there
  rw [Nat.sub_add_cancel some, placeFrom_dotsFrom walk.early] at next
  have left := there.leftOut_cases
  omega

/-- The last dot of a walk is that of the frame. -/
theorem standsAt_last : StandsAt (chip (dotsFrom chip start - 1)) (341 * 262 - 1) := by
  have there := (walk.standsAt (Nat.sub_one_lt_of_lt walk.dotsFrom_pos)).1
  rwa [walk.placeFrom_last] at there

/-- That dot completes the frame. -/
theorem clock_last :
    let ended := ((chip (dotsFrom chip start - 1)).clock (slot (dotsFrom chip start - 1))).ppu
    StandsAt ended 0 ∧ ended.oddFrame = (!(chip 0).oddFrame) ∧ ended.frameComplete = true := by
  obtain ⟨first, other, complete⟩ := walk.standsAt_last.clock_last (slot (dotsFrom chip start - 1))
  have odd := (walk.standsAt (Nat.sub_one_lt_of_lt walk.dotsFrom_pos)).2.1
  rw [odd] at other
  exact ⟨first, other, complete⟩

/-- The dots of the walk go over one place after another, each of them over its own place and, where
that one is left out, over the one behind it. -/
theorem flatMap_range' {count : Nat} (within : count ≤ dotsFrom chip start) :
    (List.range count).flatMap (fun dot =>
      List.range' (placeFrom chip start dot) ((chip dot).leftOut + 1))
        = List.range' start (placeFrom chip start count - start) := by
  induction count with
  | zero => rw [placeFrom_zero walk.early, Nat.sub_self]; rfl
  | succ count ih =>
    have next := placeFrom_succ (walk.standsAt within).1
    have later : start ≤ placeFrom chip start count := by
      rw [placeFrom]
      omega
    have size : (chip count).leftOut + 1
        = placeFrom chip start (count + 1) - placeFrom chip start count := by
      omega
    rw [List.range_succ, List.flatMap_append, ih (Nat.le_of_succ_le within),
      List.flatMap_singleton, size, ← range'_split later (by omega)]

/-- The places in the picture that the dots of a walk belong to are those of all the places that
they go over: the dot that is left out has none. -/
theorem filterMap_pictureAt {count : Nat} (within : count ≤ dotsFrom chip start) :
    (List.range count).filterMap (fun dot =>
      pictureAt (placeFrom chip start dot + (chip dot).leftOut))
        = (List.range' start (placeFrom chip start count - start)).filterMap pictureAt := by
  rw [← walk.flatMap_range' within, List.filterMap_flatMap, List.filterMap_eq_flatMap_toList]
  apply List.flatMap_congr
  intro dot inside
  have there := (walk.standsAt (Nat.lt_of_lt_of_le (List.mem_range.1 inside) within)).1
  -- a dot that is left out is the first one of its line, which has no place in the picture
  rcases there.leftOut_cases with none | ⟨first, one⟩
  · rw [none]
    change (pictureAt (placeFrom chip start dot)).toList = [_].filterMap pictureAt
    rw [List.filterMap_eq_flatMap_toList, List.flatMap_singleton]
  · rw [first, one]
    rfl

/-- A walk to the end of the frame makes the pixels of the whole picture in order, if the frame is
drawn, and none otherwise. -/
theorem places_pixels :
    (List.range (dotsFrom chip start)).filterMap (fun dot =>
      ((chip dot).clock (slot dot)).pixel.map Pixel.place)
        = if (chip 0).drawsFrame then rasterOrder else [] := by
  have pixel {dot : Nat} (inside : dot ∈ List.range (dotsFrom chip start)) :
      ((chip dot).clock (slot dot)).pixel.map Pixel.place
        = if (chip 0).drawsFrame then pictureAt (placeFrom chip start dot + (chip dot).leftOut)
          else none := by
    have there := (walk.standsAt (List.mem_range.1 inside)).1
    rw [there.place_clock, walk.drawsFrame]
  rw [List.filterMap_congr fun dot inside => pixel inside]
  cases (chip 0).drawsFrame with
  | true =>
    have places := walk.filterMap_pictureAt (Nat.le_refl _)
    rw [placeFrom_dotsFrom walk.early, filterMap_pictureAt_frame walk.early] at places
    exact places
  | false => exact List.filterMap_eq_nil_iff.2 fun _ _ => rfl

end FrameWalk

end Nes.Ppu
