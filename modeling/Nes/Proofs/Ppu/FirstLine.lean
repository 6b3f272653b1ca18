import Nes.Proofs.Ppu.SpriteLine

/-!
# No sprites on the first line

The sprites of a line are selected on the line above it, and line -1 selects none: it forgets those
of the last frame instead. So from there to the end of line 0 no slot is in use, and the first line
of the picture has no foreground (`OnCourse.foreground_of_first`). That is the course of a chip
whose pipelines were not set by hand; every dot keeps it.
-/
namespace Nes.Ppu

/-- The chip stands on the grid, and no sprites are selected from the start of the last line before
the picture until the first line of the picture has been drawn. -/
def OnCourse (ppu : Ppu) : Prop :=
  ∃ place, StandsAt ppu place ∧ (2 ≤ place → place ≤ 341 + 257 → ppu.sprites.count = 0)

/-- The course is the line, the dot and the number of selected sprites. -/
theorem OnCourse.congr {ppu other : Ppu} (course : OnCourse ppu) (line : other.line = ppu.line)
    (dot : other.dot = ppu.dot) (count : other.sprites.count = ppu.sprites.count) :
    OnCourse other := by
  obtain ⟨place, here, empty⟩ := course
  exact ⟨place, ⟨here.inside, by rw [line, here.line], by rw [dot, here.dot]⟩, by rwa [count]⟩

/-- A pipeline without sprites stays without sprites as it moves. -/
theorem Sprites.shift_of_empty {sprites : Sprites} (empty : sprites.count = 0) :
    sprites.shift = sprites := by
  rw [Sprites.shift, if_pos empty]

/-- Nor does it show a colour. -/
theorem Sprites.colorOf_of_empty {sprites : Sprites} (empty : sprites.count = 0) (index : Fin 8) :
    sprites.colorOf index = 0 := by
  have unused : sprites.uses index = false := by
    rw [Sprites.uses, empty]
    exact decide_eq_false (Nat.not_lt_zero _)
  rw [Sprites.colorOf, unused, Bool.false_and]
  rfl

/-- So it has no foreground. -/
theorem Sprites.foreground_of_empty {sprites : Sprites} (empty : sprites.count = 0) :
    sprites.foreground.1 = .clear := by
  have none : sprites.shown? = none := by
    refine List.find?_eq_none.2 fun index _ => ?_
    rw [Sprites.colorOf_of_empty empty index]
    decide
  rw [Sprites.foreground, none]

section Dot

variable {κ : Type} [CartridgeSide κ] {ppu : Ppu} {place : Nat} (here : StandsAt ppu place)
  (slot : κ)

include here

/-- No dot from the second one of line -1 to the last one of the picture's first line selects any
sprites. -/
theorem StandsAt.count_composing (later : 1 ≤ place) (before : place < 341 + 257)
    (empty : 2 ≤ place → ppu.sprites.count = 0) : (ppu.composing slot).sprites.count = 0 := by
  change (ppu.composing slot).lineup.count = 0
  by_cases first : place = 1
  · rw [here.lineup_composing_of_first slot first]
    rfl
  have count : ppu.lineup.count = 0 := empty (by omega)
  by_cases early : place % 341 < 2
  · rw [here.lineup_composing_of_early slot early first, count]
  by_cases last : place % 341 = 340
  · rw [here.lineup_composing_of_fetch slot (by omega) last]
    exact count
  · rw [here.lineup_composing_of_plain slot (by omega) (by omega) (by omega) last]
    split
    · rw [Sprites.shift_of_empty count, count]
    · exact count

end Dot

variable {κ : Type} [CartridgeSide κ] {ppu : Ppu}

/-- A dot keeps the chip on course. -/
theorem OnCourse.clock (course : OnCourse ppu) (slot : κ) : OnCourse (ppu.clock slot).ppu := by
  obtain ⟨place, here, empty⟩ := course
  rcases here.last_or_more with rfl | more
  · exact ⟨0, (here.clock_last slot).1, fun later => absurd later (by decide)⟩
  · have there := (here.clock slot more).1
    have lineup := (sides_clock ppu slot).2
    have inside : place + ppu.leftOut + 1 ≤ 341 + 257 → 2 ≤ place + ppu.leftOut + 1 →
        (ppu.composing slot).sprites.count = 0 := fun before later =>
      here.count_composing slot (here.leftOut_cases.elim (by omega) (by omega)) (by omega)
        fun later => empty later (by omega)
    generalize (ppu.clock slot).ppu = next at there lineup ⊢
    generalize ppu.composing slot = composing at lineup inside
    refine ⟨_, there, fun later before => ?_⟩
    exact (congrArg Sprites.count lineup).trans (inside before later)

/-- The first line of the picture has no foreground. -/
theorem OnCourse.foreground_of_first (course : OnCourse ppu) (slot : κ)
    (line : (ppu.composing slot).line = 0) (dot : (ppu.composing slot).dot ≤ 256) :
    (ppu.composing slot).spriteForeground.1 = .clear := by
  obtain ⟨place, here, empty⟩ := course
  have there := here.composing slot
  have first : (place + ppu.leftOut) / 341 = 1 := by
    have stands := there.line
    rw [line] at stands
    change (0 : Int) = _ at stands
    omega
  have inPicture : (place + ppu.leftOut) % 341 ≤ 256 := by
    rw [Int16.le_iff_toInt_le, there.dot] at dot
    change _ ≤ (256 : Int) at dot
    omega
  have left := here.leftOut_cases
  have none : (ppu.composing slot).sprites.count = 0 :=
    here.count_composing slot (by omega) (by omega) fun later => empty later (by omega)
  rw [spriteForeground]
  split
  · exact Sprites.foreground_of_empty none
  · rfl

end Nes.Ppu
