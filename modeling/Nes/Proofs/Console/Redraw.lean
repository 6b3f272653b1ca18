import Nes.Proofs.Console.Frame
import Nes.Proofs.Ppu.PicturePlaces

/-!
# A drawn frame covers the screen

A frame that is drawn goes over the dots of the picture in order, and each of them draws the pixel
of its own place. So two consoles with one machine whose screens differ agree on the places that
the chip has passed, and at the end of the frame on all of them
(`FrameStart.frame_runFrame_congr`).
-/
namespace Nes

namespace Ppu

variable {κ : Type} [CartridgeSide κ] {ppu : Ppu} {x y : Nat}

/-- A pixel of the picture belongs to the dot one line and one dot behind its own place. -/
theorem pictureAt_of_picture (column : x < 256) (row : y < 240) :
    pictureAt (341 * (y + 1) + (x + 1)) = some (x, y) := by
  have across : (341 * (y + 1) + (x + 1)) % 341 - 1 = x := by omega
  have down : (341 * (y + 1) + (x + 1)) / 341 - 1 = y := by omega
  rw [pictureAt, if_pos (by omega), across, down]

/-- A dot of the picture draws the pixel of its place. -/
theorem StandsAt.pixel_clock {place : Nat} (here : StandsAt ppu place)
    (there : place + ppu.leftOut = 341 * (y + 1) + (x + 1)) (column : x < 256) (row : y < 240)
    (draws : ppu.drawsFrame = true) (slot : κ) :
    ∃ color, (ppu.clock slot).pixel = some ⟨x, y, color⟩ := by
  have made := here.place_clock slot
  rw [draws, if_pos rfl, there, pictureAt_of_picture column row] at made
  obtain ⟨pixel, found, placed⟩ := Option.map_eq_some_iff.1 made
  obtain ⟨rfl, rfl⟩ := Prod.mk.inj placed
  exact ⟨pixel.color, found⟩

end Ppu

namespace FrameBuffer

variable {left right : FrameBuffer}

/-- Frame buffers that agree everywhere are equal. -/
theorem ext_get? (agree : ∀ x y, x < pictureWidth → y < pictureHeight →
    left.get? x y = right.get? x y) : left = right := by
  obtain ⟨left⟩ := left
  obtain ⟨right⟩ := right
  congr 1
  refine Vector.ext fun index inside => ?_
  have bound : index < 61440 := inside
  have column : index % pictureWidth < pictureWidth := Nat.mod_lt _ (by decide)
  have row : index / pictureWidth < pictureHeight := by
    simp only [pictureWidth, pictureHeight]
    omega
  have place : index / pictureWidth * pictureWidth + index % pictureWidth = index :=
    Nat.div_add_mod' index pictureWidth
  have same := agree _ _ column row
  simp only [get?, column, row, and_self, dite_true, Option.some.injEq, place] at same
  exact same

/-- Where two frame buffers agree, they agree behind a pixel drawn into both. -/
theorem get?_draw_congr {x y : Nat} (agree : left.get? x y = right.get? x y) (pixel : Pixel) :
    (left.draw pixel).get? x y = (right.draw pixel).get? x y := by
  by_cases here : x = pixel.x ∧ y = pixel.y
  · obtain ⟨rfl, rfl⟩ := here
    by_cases inside : pixel.x < pictureWidth ∧ pixel.y < pictureHeight
    · rw [left.get?_draw_self pixel inside, right.get?_draw_self pixel inside]
    · rw [get?, get?, dif_neg inside, dif_neg inside]
  · rw [left.get?_draw_of_ne pixel here, right.get?_draw_of_ne pixel here, agree]

end FrameBuffer

/-- Two screens agree on the places of the picture before a place of the frame. -/
def Screen.AgreeBefore (place : Nat) (left right : Screen) : Prop :=
  ∀ x y, x < pictureWidth → y < pictureHeight → 341 * (y + 1) + (x + 1) < place →
    left.frame.get? x y = right.frame.get? x y

namespace Console

/-- What a tick makes of the machine does not depend on the screen. -/
theorem machine_eq_of_tick {left right : Console} (same : left.machine = right.machine) :
    left.tick.machine = right.tick.machine := by
  rw [machine_tick, machine_tick, same]

/-- A tick draws the pixel of its dot. -/
theorem screen_tick (console : Console) :
    console.tick.screen
      = console.screen.draw (console.chip.clock console.machine.bus.slot).pixel := by
  obtain ⟨machine, screen⟩ := console
  simp only [tick, chip]
  rw [Machine.pixel_tick]

/-- Being told of the end of a frame leaves the screen alone. -/
theorem screen_told (console : Console) : console.told.screen = console.screen := by
  obtain ⟨machine, screen⟩ := console
  rfl

/-- A tick does not change the choice whether to draw. -/
theorem drawsFrame_tick (console : Console) :
    console.tick.chip.drawsFrame = console.chip.drawsFrame := by
  rw [chip, machine_tick, Ppu.drawsFrame_of_raster console.machine.raster_tick,
    Ppu.drawsFrame_clock, chip]

variable {left right : Console} {place : Nat}

/-- A tick that draws makes two screens agree on one more place. -/
theorem agreeBefore_tick (same : left.machine = right.machine) (here : left.chip.StandsAt place)
    (draws : left.chip.drawsFrame = true)
    (agree : Screen.AgreeBefore place left.screen right.screen) :
    Screen.AgreeBefore (place + left.chip.leftOut + 1) left.tick.screen right.tick.screen := by
  intro x y column row before
  have chip : right.chip = left.chip := congrArg (fun machine => machine.bus.ppu) same.symm
  have slot : right.machine.bus.slot = left.machine.bus.slot :=
    congrArg (fun machine => machine.bus.slot) same.symm
  have cases := here.leftOut_cases
  simp only [pictureWidth, pictureHeight] at column row
  rw [screen_tick, screen_tick, chip, slot]
  by_cases last : place + left.chip.leftOut = 341 * (y + 1) + (x + 1)
  · obtain ⟨color, pixel⟩ := here.pixel_clock last column row draws left.machine.bus.slot
    rw [pixel]
    exact (left.screen.frame.get?_draw_self ⟨x, y, color⟩ ⟨column, row⟩).trans
      (right.screen.frame.get?_draw_self ⟨x, y, color⟩ ⟨column, row⟩).symm
  · have earlier := agree x y column row (by omega)
    cases (left.chip.clock left.machine.bus.slot).pixel with
    | none => exact earlier
    | some pixel => exact FrameBuffer.get?_draw_congr earlier pixel

/-- A run to the end of a frame that is drawn ends with one picture, if the screens agree where the
chip has been. -/
theorem frame_runToFrameEnd_congr (same : left.machine = right.machine)
    (here : left.chip.StandsAt place) (incomplete : left.chip.frameComplete = false)
    (draws : left.chip.drawsFrame = true)
    (agree : Screen.AgreeBefore place left.screen right.screen) {limit : Nat}
    (enough : 341 * 262 ≤ place + limit) :
    (left.runToFrameEnd limit).screen.frame = (right.runToFrameEnd limit).screen.frame := by
  induction limit generalizing left right place with
  | zero => exact absurd here.inside (by omega)
  | succ limit ih =>
    have next := machine_eq_of_tick same
    have chip : right.tick.chip = left.tick.chip :=
      congrArg (fun machine => machine.bus.ppu) next.symm
    have agrees := agreeBefore_tick same here draws agree
    have still := (drawsFrame_tick left).trans draws
    rw [runToFrameEnd_succ, runToFrameEnd_succ, chip]
    rcases here.last_or_more with rfl | more
    · rw [if_pos (standsAt_tick_last here).2, if_pos (standsAt_tick_last here).2, screen_told,
        screen_told]
      -- the whole picture lies before the last place of the frame
      refine FrameBuffer.ext_get? fun x y column row => agrees x y column row ?_
      simp only [pictureWidth, pictureHeight] at column row
      omega
    · obtain ⟨there, complete⟩ := standsAt_tick here more
      have flag := complete.trans incomplete
      rw [if_neg (Bool.eq_false_iff.1 flag), if_neg (Bool.eq_false_iff.1 flag)]
      exact ih next there flag still agrees (by omega)

/-- A console that is about to draw the picture from its first pixel on. -/
structure FrameStart (console : Console) : Prop where
  /-- No frame has ended that has not been told of. -/
  incomplete : console.chip.frameComplete = false
  /-- The chip stands at the start of the picture or before it. -/
  early : ∃ place ≤ 341, console.chip.StandsAt place

/-- A drawn frame ends with one picture, whatever was on the screen. -/
theorem FrameStart.frame_runFrame_congr (start : left.FrameStart)
    (same : (left.choosing true).machine = (right.choosing true).machine) :
    (left.runFrame true).screen.frame = (right.runFrame true).screen.frame := by
  obtain ⟨place, early, here⟩ := start.early
  have chip : (right.choosing true).chip = (left.choosing true).chip :=
    congrArg (fun machine => machine.bus.ppu) same.symm
  have chosen : (left.choosing true).chip.StandsAt place := here.of_grid rfl
  have agree : Screen.AgreeBefore place (left.choosing true).screen (right.choosing true).screen :=
    fun x y _ _ before => absurd before (by omega)
  rw [runFrame_eq, runFrame_eq, chip, dotsToFrameEnd_of_standsAt chosen]
  exact frame_runToFrameEnd_congr same chosen start.incomplete rfl agree (by omega)

/-- After a frame the console is at the start of the next one. -/
theorem FrameStart.runFrame {console : Console} (start : console.FrameStart) (draw : Bool) :
    (console.runFrame draw).FrameStart := by
  obtain ⟨place, early, here⟩ := start.early
  obtain ⟨count, -, reached, ends⟩ := runFrame_of_incomplete here start.incomplete draw
  rw [reached]
  exact ⟨rfl, 0, by decide, standsAt_told ends.start⟩

/-- So it is after a cartridge has been inserted. -/
theorem frameStart_insert (console : Console) (cartridge : Cartridge) :
    (console.insert cartridge).FrameStart := by
  have started := Machine.raster_reset ⟨console.machine.cpu, console.machine.bus.insert cartridge⟩
  obtain ⟨here, incomplete, -⟩ := Ppu.standsAt_of_raster started
  exact ⟨incomplete, 341, Nat.le_refl _, here⟩

end Console

end Nes
