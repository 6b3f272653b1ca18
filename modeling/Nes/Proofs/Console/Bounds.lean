import Nes.Proofs.Console.Reachable
import Nes.Proofs.Machine.Checked

/-!
# Exact consoles

The machine of a reachable console is within its bounds, and so is that machine anywhere within a
frame. On such a machine a tick and an access do their arithmetic without leaving a type, and every
pixel lies in the picture (`Console.Exact`). The two are put together in
`Reachable.exact_withinFrame`.
-/
namespace Nes

/-- Draw a pixel. A place has four bytes, and both ends of them are worked out. -/
def FrameBuffer.checkedDraw (frame : FrameBuffer) (pixel : Pixel) : Option FrameBuffer :=
  if pixel.x < pictureWidth ∧ pixel.y < pictureHeight then do
    let row ← mul? pixel.y pictureWidth
    let place ← add? row pixel.x
    let first ← mul? place 4
    let _ ← add? first 4
    return ⟨frame.pixels.setIfInBounds place pixel.color⟩
  else some frame

/-- A picture has fewer bytes than memory has addresses. -/
theorem FrameBuffer.checkedDraw_eq (frame : FrameBuffer) (pixel : Pixel) :
    frame.checkedDraw pixel = some (frame.draw pixel) := by
  have small : pictureSize * 4 < 4294967296 := by decide
  rw [checkedDraw, draw]
  by_cases inside : pixel.x < pictureWidth ∧ pixel.y < pictureHeight
  · have bound := index_lt inside
    have row : mul? pixel.y pictureWidth = some (pixel.y * pictureWidth) :=
      mul?_offset (by omega)
    have place : add? (pixel.y * pictureWidth) pixel.x
        = some (pixel.y * pictureWidth + pixel.x) := add?_offset (by omega)
    have first : mul? (pixel.y * pictureWidth + pixel.x) 4
        = some ((pixel.y * pictureWidth + pixel.x) * 4) := mul?_offset (by omega)
    have last : add? ((pixel.y * pictureWidth + pixel.x) * 4) 4
        = some ((pixel.y * pictureWidth + pixel.x) * 4 + 4) := add?_offset (by omega)
    have set : frame.pixels.setIfInBounds (pixel.y * pictureWidth + pixel.x) pixel.color
        = frame.pixels.set (pixel.y * pictureWidth + pixel.x) pixel.color bound := by
      apply Vector.ext
      intro index _
      rw [Vector.getElem_setIfInBounds, Vector.getElem_set]
    rw [if_pos inside, dif_pos inside, row, Option.bind_eq_bind, Option.bind_some, place,
      Option.bind_some, first, Option.bind_some, last, set]
    rfl
  · rw [if_neg inside, dif_neg inside]

/-- Draw the pixel of a dot, if the dot has one. -/
def Screen.checkedDraw (screen : Screen) : Option Pixel → Option Screen
  | some pixel => do
    let frame ← screen.frame.checkedDraw pixel
    return ⟨frame, screen.drawn + 1⟩
  | none => some screen

/-- A pixel that is drawn has its four bytes within the offsets of the screen. -/
theorem Screen.checkedDraw_eq (screen : Screen) (pixel : Option Pixel) :
    screen.checkedDraw pixel = some (screen.draw pixel) := by
  cases pixel with
  | none => rfl
  | some pixel =>
    rw [checkedDraw, FrameBuffer.checkedDraw_eq]
    rfl

namespace Console

/-- One tick. -/
def checkedTick (console : Console) : Option Console := do
  let (pixel, machine) ← console.machine.checkedTick
  let screen ← console.screen.checkedDraw pixel
  return ⟨machine, screen⟩

/-- A console on which no arithmetic goes wrong. -/
structure Exact (console : Console) : Prop where
  /-- No operation of a tick leaves its type. -/
  tick : console.checkedTick = some console.tick
  /-- No operation of a read leaves its type. -/
  read : ∀ address,
    console.machine.bus.checkedRead address = some (console.machine.bus.read address)
  /-- No operation of a write leaves its type. -/
  write : ∀ address value,
    console.machine.bus.checkedWrite address value
      = some (console.machine.bus.write address value)
  /-- A pixel is drawn inside of the picture. -/
  pixel : ∀ pixel, console.machine.tick.1 = some pixel →
    pixel.x < pictureWidth ∧ pixel.y < pictureHeight

section Bounds

variable {console : Console} (bounded : console.machine.Bounded)

include bounded

/-- The bounds are what arithmetic relies on. -/
theorem exact_of_bounded : Exact console where
  tick := by
    obtain ⟨machine, screen⟩ := console
    rw [checkedTick, Machine.checkedTick_eq bounded, Option.bind_eq_bind, Option.bind_some]
    dsimp only
    rw [Screen.checkedDraw_eq]
    rfl
  read address := Bus.checkedRead_eq bounded.bus.slot address
  write address value := Bus.checkedWrite_eq bounded.bus.slot address value
  pixel _ made := Machine.inside_of_tick made

end Bounds

/-- The bounds last. The mark of a frame that has ended is no part of them. -/
theorem lasting_bounded : Lasting Machine.Bounded where
  powerOn := Machine.bounded_powerOn
  insert bounded accepted := bounded.insert accepted.bounded
  act bounded action := bounded.act action
  told bounded :=
    ⟨⟨bounded.bus.ppu.congr rfl, bounded.bus.slot, bounded.bus.ready⟩, bounded.cycles⟩
  inGuise bounded guise := bounded.inGuise guise

/-- The machine of a reachable console is within its bounds. -/
theorem Reachable.bounded {console : Console} (reachable : Reachable console) :
    console.machine.Bounded := reachable.holds lasting_bounded

/-- A reachable console is within its bounds and exact, and so is every console that it passes
through in a frame, drawn or not. -/
theorem Reachable.exact_withinFrame {console : Console} (reachable : Reachable console) :
    (console.machine.Bounded ∧ Exact console) ∧
      ∀ draw count, ((console.choosing draw).run count).machine.Bounded ∧
        Exact ((console.choosing draw).run count) := by
  refine ⟨⟨reachable.bounded, exact_of_bounded reachable.bounded⟩, ?_⟩
  intro draw count
  have inFrame := lasting_bounded.run (lasting_bounded.choosing reachable.bounded draw) count
  exact ⟨inFrame, exact_of_bounded inFrame⟩

/-- A console with a cartridge that counts lines. -/
theorem exact_withinFrame_bareMmc3 :
    ((powerOn.insert .bareMmc3).machine.Bounded ∧ Exact (powerOn.insert .bareMmc3)) ∧
      ∀ draw count, (((powerOn.insert .bareMmc3).choosing draw).run count).machine.Bounded ∧
        Exact (((powerOn.insert .bareMmc3).choosing draw).run count) :=
  (Reachable.powerOn.insert Cartridge.accepted_bareMmc3).exact_withinFrame

end Console

end Nes
