import Nes.Proofs.Machine.ChipAccess
import Nes.Proofs.Machine.Use
import Nes.Proofs.Ppu.FirstLine
import Nes.Proofs.Ppu.Raster

/-!
# The raster of a machine

The raster can not be reached through the registers of the picture chip. So whatever the processor,
a transfer, the cartridge and the interrupts do in a tick, the raster goes on by one dot
(`Machine.raster_tick`).
-/
namespace Nes

namespace Ppu

/-- Chips with one raster are on course together. -/
theorem OnCourse.of_raster {ppu other : Ppu} (course : OnCourse ppu)
    (same : other.raster = ppu.raster) : OnCourse other :=
  course.congr (congrArg (fun raster => raster.grid.line) same)
    (congrArg (fun raster => raster.grid.dot) same)
    (congrArg (fun raster => raster.sprites.count) same)

/-- Where the raster of a chip starts, the chip stands at the first dot of the picture. -/
theorem standsAt_of_raster {ppu : Ppu} {background : Background} {sprites : Sprites} {draws : Bool}
    (started : ppu.raster = ⟨⟨0, 0, false, false⟩, background, sprites, draws⟩) :
    StandsAt ppu 341 ∧ ppu.frameComplete = false ∧ ppu.sprites = sprites := by
  have line : ppu.line = 0 := congrArg (fun raster => raster.grid.line) started
  have dot : ppu.dot = 0 := congrArg (fun raster => raster.grid.dot) started
  exact ⟨⟨by decide, by rw [line]; rfl, by rw [dot]; rfl⟩,
    congrArg (fun raster => raster.grid.frameComplete) started, congrArg Raster.sprites started⟩

end Ppu

/-- No access reaches the raster. -/
theorem Ppu.raster_kept (fixed : Ppu.Raster) : Ppu.KeptByAccess fun ppu => ppu.raster = fixed where
  read {ppu} slot address same := (ppu.raster_readRegister slot address).trans same
  write {ppu} slot address value same := (ppu.raster_writeRegister slot address value).trans same
  store _ _ same := same

namespace Machine

/-- A tick moves the raster on by one dot. -/
theorem raster_tick (machine : Machine) :
    machine.tick.2.bus.ppu.raster = (machine.bus.ppu.clock machine.bus.slot).ppu.raster :=
  (Ppu.raster_kept _).tick (fun _ same => same) rfl

/-- A reset takes the raster to the first dot of the picture. -/
theorem raster_reset (machine : Machine) :
    machine.reset.bus.ppu.raster
      = ⟨⟨0, 0, false, false⟩, .powerOn, .powerOn, machine.bus.ppu.drawsFrame⟩ := by
  let slotReset : Bus := { machine.bus with slot := machine.bus.slot.map Cartridge.reset }
  have same : slotReset.ppu.raster = machine.bus.ppu.raster := rfl
  have started := (Ppu.raster_kept machine.bus.ppu.raster).invariant.reset same machine.cpu
  exact congrArg (fun raster : Ppu.Raster =>
    Ppu.Raster.mk ⟨0, 0, false, false⟩ .powerOn .powerOn raster.drawsFrame) started

/-- A tick moves the picture chip on the grid by its dot. -/
theorem grid_tick (machine : Machine) :
    machine.tick.2.bus.ppu.grid = (machine.bus.ppu.clock machine.bus.slot).ppu.grid :=
  congrArg Ppu.Raster.grid machine.raster_tick

/-- A tick goes on in raster order. -/
theorem standsAt_tick {machine : Machine} {place : Nat}
    (here : machine.bus.ppu.StandsAt place)
    (more : place + machine.bus.ppu.leftOut + 1 < 341 * 262) :
    machine.tick.2.bus.ppu.StandsAt (place + machine.bus.ppu.leftOut + 1) ∧
      machine.tick.2.bus.ppu.frameComplete = machine.bus.ppu.frameComplete := by
  obtain ⟨there, -, complete⟩ := here.clock machine.bus.slot more
  have grid := machine.grid_tick
  exact ⟨there.of_grid grid, (Ppu.frameComplete_of_grid grid).trans complete⟩

/-- In a frame that leaves out no dot a tick goes on to the next place. -/
theorem standsAt_tick_of_even {machine : Machine} {place : Nat}
    (here : machine.bus.ppu.StandsAt place) (even : machine.bus.ppu.oddFrame = false)
    (inside : place + 1 < 341 * 262) :
    machine.tick.2.bus.ppu.StandsAt (place + 1) ∧ machine.tick.2.bus.ppu.oddFrame = false := by
  have none : machine.bus.ppu.leftOut = 0 := by
    rw [Ppu.leftOut, Ppu.leavesOut, even, Bool.and_false, Bool.false_and]
    rfl
  obtain ⟨there, odd, -⟩ := here.clock machine.bus.slot (by omega)
  have grid := machine.grid_tick
  rw [none] at there
  exact ⟨there.of_grid grid, (Ppu.oddFrame_of_grid grid).trans (odd.trans even)⟩

/-- The last tick of a frame goes back to the first place and completes the frame. -/
theorem standsAt_tick_last {machine : Machine} (here : machine.bus.ppu.StandsAt (341 * 262 - 1)) :
    machine.tick.2.bus.ppu.StandsAt 0 ∧ machine.tick.2.bus.ppu.frameComplete = true := by
  obtain ⟨there, -, complete⟩ := here.clock_last machine.bus.slot
  have grid := machine.grid_tick
  exact ⟨there.of_grid grid, (Ppu.frameComplete_of_grid grid).trans complete⟩

/-- A tick keeps the picture chip on course. -/
theorem onCourse_tick {machine : Machine} (course : machine.bus.ppu.OnCourse) :
    machine.tick.2.bus.ppu.OnCourse :=
  (course.clock machine.bus.slot).of_raster machine.raster_tick

/-- A reset puts the picture chip on course, wherever it was. -/
theorem onCourse_reset (machine : Machine) : machine.reset.bus.ppu.OnCourse := by
  obtain ⟨here, -, sprites⟩ := Ppu.standsAt_of_raster machine.raster_reset
  exact ⟨341, here, fun _ _ => congrArg Ppu.Sprites.count sprites⟩

/-- Nothing that can be done to a machine takes its picture chip off course. -/
theorem onCourse_act {machine : Machine} (course : machine.bus.ppu.OnCourse) (action : Action) :
    (machine.act action).2.bus.ppu.OnCourse := by
  cases action with
  | tick =>
    simp only [act]
    exact onCourse_tick course
  | reset => exact machine.onCourse_reset
  | setButtons socket buttons =>
    refine course.of_raster ?_
    simp only [act, Bus.setButtons]
    split <;> rfl
  | read address => exact course.of_raster ((Ppu.raster_kept _).busRead rfl address)
  | write address value => exact course.of_raster ((Ppu.raster_kept _).busWrite rfl address value)

end Machine

end Nes
