import Mathlib.Data.List.Basic
import Nes.Picture.FrameBuffer
import Nes.Proofs.Ppu.Grid

/-!
# The places of the picture

The places of the frame that belong to the picture are 256 dots of each of 240 lines
(`Ppu.pictureAt`). A dot makes a pixel just where its place is one of them, and the pixel belongs
there. In raster order, the places of a frame go over those of the picture from left to right and
line by line (`Ppu.filterMap_pictureAt_frame`).
-/
namespace Nes

/-- The place of a pixel in the picture. -/
def Pixel.place (pixel : Pixel) : Nat × Nat := (pixel.x, pixel.y)

namespace Ppu

variable {κ : Type} [CartridgeSide κ]

/-- The place in the picture that a place of the frame belongs to. The first dot of a line comes
before the picture, and the dots behind the 256 that follow it come after. -/
def pictureAt (place : Nat) : Option (Nat × Nat) :=
  if 341 ≤ place ∧ place < 341 * 241 ∧ 1 ≤ place % 341 ∧ place % 341 ≤ 256 then
    some (place % 341 - 1, place / 341 - 1)
  else none

namespace StandsAt

variable {ppu : Ppu} {place : Nat} (here : StandsAt ppu place) (slot : κ)

include here

/-- A pixel is made where the place belongs to the picture, if the frame is drawn. -/
theorem place_makePixel :
    (ppu.makePixel slot).1.map Pixel.place = if ppu.drawsFrame then pictureAt place else none := by
  have inPicture : (ppu.visibleLine && ppu.dotWithin 1 257) = true ↔
      341 ≤ place ∧ place < 341 * 241 ∧ 1 ≤ place % 341 ∧ place % 341 ≤ 256 := by
    rw [Bool.and_eq_true, here.visibleLine_iff, here.dotWithin_iff 1 257 1 257 rfl rfl]
    omega
  have there := here.of_grid (congrArg Prod.fst (stage_compose ppu))
  have drawn := congrArg Held.drawsFrame (DotPhase.compose.held ppu)
  rw [Ppu.makePixel, pictureAt]
  dsimp only at there drawn ⊢
  generalize ppu.compose = composed at there drawn ⊢
  obtain ⟨candidate, after⟩ := composed
  change after.drawsFrame = ppu.drawsFrame at drawn
  by_cases visible : (ppu.visibleLine && ppu.dotWithin 1 257) = true
  · have inside := inPicture.1 visible
    have dot := there.toNatClampNeg_dot inside.2.2.1
    have line := there.toNatClampNeg_line
    rw [if_pos visible, if_pos inside]
    dsimp only at dot line ⊢
    rw [drawn, dot, line]
    split <;> rfl
  · rw [if_neg visible, if_neg (mt inPicture.2 visible)]
    exact (ite_self none).symm

/-- So it is with the pixel of a dot, which belongs behind a dot that is left out. -/
theorem place_clock :
    (ppu.clock slot).pixel.map Pixel.place
      = if ppu.drawsFrame then pictureAt (place + ppu.leftOut) else none := by
  have drawn : (ppu.composing slot).drawsFrame = ppu.drawsFrame :=
    congrArg Held.drawsFrame (ppu.held_composing slot)
  rw [clock_pixel, (here.composing slot).place_makePixel, drawn]

end StandsAt

/-- The places of a picture, line by line. -/
def rasterOrder : List (Nat × Nat) :=
  (List.range pictureSize).map fun index => (index % pictureWidth, index / pictureWidth)

/-- The numbers from one to another, in two pieces. -/
theorem range'_split {first middle last : Nat} (left : first ≤ middle) (right : middle ≤ last) :
    List.range' first (last - first)
      = List.range' first (middle - first) ++ List.range' middle (last - middle) := by
  have appended := List.range'_append_1 (s := first) (m := middle - first) (n := last - middle)
  have sum : middle - first + (last - middle) = last - first := by omega
  rw [Nat.add_sub_cancel' left, sum] at appended
  exact appended.symm

/-- A line of the frame goes over a line of the picture from left to right. -/
theorem filterMap_pictureAt_line {row : Nat} (inPicture : row < 240) :
    (List.range' (341 * (row + 1)) 341).filterMap pictureAt
      = (List.range' (256 * row) 256).map fun index => (index % 256, index / 256) := by
  have split : List.range' (341 * (row + 1)) 341
      = [341 * (row + 1)] ++ List.range' (341 * (row + 1) + 1) 256
        ++ List.range' (341 * (row + 1) + 257) 84 := by
    rw [List.append_assoc, List.range'_append_1]
    rfl
  have first : pictureAt (341 * (row + 1)) = none := if_neg (by omega)
  have behind : (List.range' (341 * (row + 1) + 257) 84).filterMap pictureAt = [] := by
    rw [List.filterMap_eq_nil_iff]
    intro place within
    have bounds := List.mem_range'_1.1 within
    exact if_neg (by omega)
  have middle : (List.range' (341 * (row + 1) + 1) 256).filterMap pictureAt
      = (List.range' (256 * row) 256).map fun index => (index % 256, index / 256) := by
    rw [List.range'_eq_map_range, List.range'_eq_map_range, List.filterMap_map, List.map_map,
      List.filterMap_eq_map_iff_forall_eq_some]
    intro column within
    have small := List.mem_range.1 within
    have inside : 341 ≤ 341 * (row + 1) + 1 + column ∧ 341 * (row + 1) + 1 + column < 341 * 241 ∧
        1 ≤ (341 * (row + 1) + 1 + column) % 341 ∧ (341 * (row + 1) + 1 + column) % 341 ≤ 256 := by
      omega
    have place : (341 * (row + 1) + 1 + column) % 341 - 1 = (256 * row + column) % 256 ∧
        (341 * (row + 1) + 1 + column) / 341 - 1 = (256 * row + column) / 256 := by
      omega
    exact (if_pos inside).trans (congrArg some (Prod.ext place.1 place.2))
  rw [split, List.filterMap_append, List.filterMap_append, behind, middle, List.append_nil,
    List.filterMap_cons_none first, List.filterMap_nil, List.nil_append]

/-- A number of lines of the frame go over as many lines of the picture. -/
theorem filterMap_pictureAt_lines {rows : Nat} (inPicture : rows ≤ 240) :
    (List.range' 341 (341 * rows)).filterMap pictureAt
      = (List.range (256 * rows)).map fun index => (index % 256, index / 256) := by
  induction rows with
  | zero => rfl
  | succ rows ih =>
    have line := filterMap_pictureAt_line inPicture
    have frame : List.range' 341 (341 * (rows + 1))
        = List.range' 341 (341 * rows) ++ List.range' (341 * (rows + 1)) 341 := by
      rw [Nat.mul_succ, ← List.range'_append_1, Nat.add_comm 341 (341 * rows)]
    have picture : List.range (256 * (rows + 1))
        = List.range (256 * rows) ++ List.range' (256 * rows) 256 := by
      rw [Nat.mul_succ, List.range_eq_range', ← List.range'_append_1, ← List.range_eq_range',
        Nat.zero_add]
    rw [frame, picture, List.filterMap_append, List.map_append, ih (Nat.le_of_succ_le inPicture),
      line]

/-- A frame from before the picture or from its first dot goes over the whole picture. -/
theorem filterMap_pictureAt_frame {start : Nat} (early : start ≤ 341) :
    (List.range' start (341 * 262 - start)).filterMap pictureAt = rasterOrder := by
  have split : List.range' start (341 * 262 - start)
      = List.range' start (341 - start) ++ List.range' 341 (341 * 240)
        ++ List.range' (341 * 241) (341 * 21) := by
    have picture : 341 ≤ 341 * 241 := by decide
    have frame : 341 * 241 ≤ 341 * 262 := by decide
    rw [range'_split (Nat.le_trans early picture) frame, range'_split early picture]
  have before : (List.range' start (341 - start)).filterMap pictureAt = [] := by
    rw [List.filterMap_eq_nil_iff]
    intro place within
    have bounds := List.mem_range'_1.1 within
    exact if_neg (by omega)
  have behind : (List.range' (341 * 241) (341 * 21)).filterMap pictureAt = [] := by
    rw [List.filterMap_eq_nil_iff]
    intro place within
    have bounds := List.mem_range'_1.1 within
    exact if_neg (by omega)
  rw [split, List.filterMap_append, List.filterMap_append, before, behind,
    filterMap_pictureAt_lines (Nat.le_refl 240), List.append_nil, List.nil_append]
  rfl

end Ppu

end Nes
