import Nes.Proofs.Console.Reachable
import Nes.Proofs.Machine.Raster

/-!
# The end of a frame

The picture chip of a reachable console stands on the grid, and nothing that a tick does besides
the dot moves it there. So running to the end of a frame stops where the frame ends, and the number
of ticks that the chip allows for it suffices. The end is told by a flag, though, that is taken
back only here (`runFrame_of_incomplete`): where it is still set from earlier ticks, a single tick
is all that is run (`runFrame_of_complete`).
-/
namespace Nes.Console

variable {console : Console} {place : Nat}

/-- Before the last dot, a tick takes the chip one place on, past a dot that is left out, and ends
no frame. -/
theorem standsAt_tick (here : console.chip.StandsAt place)
    (more : place + console.chip.leftOut + 1 < 341 * 262) :
    console.tick.chip.StandsAt (place + console.chip.leftOut + 1) ∧
      console.tick.chip.frameComplete = console.chip.frameComplete := by
  rw [chip, machine_tick]
  exact Machine.standsAt_tick here more

/-- The tick of the last dot takes the chip to the first place and marks the end of the frame. -/
theorem standsAt_tick_last (here : console.chip.StandsAt (341 * 262 - 1)) :
    console.tick.chip.StandsAt 0 ∧ console.tick.chip.frameComplete = true := by
  rw [chip, machine_tick]
  exact Machine.standsAt_tick_last here

/-- The flag that a frame has ended stays until it is taken back. -/
theorem frameComplete_tick (here : console.chip.StandsAt place)
    (complete : console.chip.frameComplete = true) : console.tick.chip.frameComplete = true := by
  rcases here.last_or_more with rfl | more
  · exact (standsAt_tick_last here).2
  · exact (standsAt_tick here more).2.trans complete

/-- Being told of the end of a frame does not move the chip. -/
theorem standsAt_told (here : console.chip.StandsAt place) : console.told.chip.StandsAt place where
  inside := here.inside
  line := here.line
  dot := here.dot

/-- The chip is in the last dot of a frame. -/
def AtLastDot (console : Console) : Prop := console.chip.line = 260 ∧ console.chip.dot = 340

/-- The last dot of a frame is the last place of the grid. -/
theorem atLastDot_iff (here : console.chip.StandsAt place) :
    console.AtLastDot ↔ place = 341 * 262 - 1 := by
  have inside := here.inside
  rw [AtLastDot, ← Int16.toInt_inj, ← Int16.toInt_inj, here.line, here.dot]
  change _ = (260 : Int) ∧ _ = (340 : Int) ↔ _
  omega

/-- A run ends in a tick: it is the first one that leaves the flag set, and the last dot of the
frame comes first in it. -/
structure EndsIn (console : Console) (count : Nat) : Prop where
  /-- The flag is set afterwards. -/
  complete : (console.run (count + 1)).chip.frameComplete = true
  /-- It is not set before. -/
  incomplete : ∀ earlier < count, (console.run (earlier + 1)).chip.frameComplete = false
  /-- The tick is that of the last dot. -/
  last : (console.run count).AtLastDot
  /-- No earlier tick is. -/
  notLast : ∀ earlier < count, ¬(console.run earlier).AtLastDot
  /-- Afterwards the chip is at the start of a frame. -/
  start : (console.run (count + 1)).chip.StandsAt 0

/-- A run begins with its first tick. -/
theorem run_succ (console : Console) (count : Nat) :
    console.run (count + 1) = console.tick.run count := rfl

/-- One more tick before the end. -/
theorem EndsIn.tick {count : Nat} (ends : console.tick.EndsIn count)
    (incomplete : console.tick.chip.frameComplete = false) (notLast : ¬console.AtLastDot) :
    console.EndsIn (count + 1) := by
  constructor
  case complete =>
    rw [run_succ]
    exact ends.complete
  case incomplete =>
    intro earlier less
    rw [run_succ]
    cases earlier with
    | zero => exact incomplete
    | succ earlier => exact ends.incomplete earlier (by omega)
  case last =>
    rw [run_succ]
    exact ends.last
  case notLast =>
    intro earlier less
    cases earlier with
    | zero => exact notLast
    | succ earlier =>
      rw [run_succ]
      exact ends.notLast earlier (by omega)
  case start =>
    rw [run_succ]
    exact ends.start

/-- A run to the end of a frame, from a flag that is not set, stops behind the last dot of the
frame. -/
theorem runToFrameEnd_of_incomplete (here : console.chip.StandsAt place)
    (incomplete : console.chip.frameComplete = false) {limit : Nat}
    (enough : 341 * 262 ≤ place + limit) :
    ∃ count, place + count < 341 * 262 ∧
      console.runToFrameEnd limit = (console.run (count + 1)).told ∧ console.EndsIn count := by
  induction limit generalizing console place with
  | zero => exact absurd here.inside (by omega)
  | succ limit ih =>
    have last := atLastDot_iff here
    rw [runToFrameEnd_succ]
    rcases here.last_or_more with rfl | more
    · obtain ⟨start, complete⟩ := standsAt_tick_last here
      rw [if_pos complete]
      refine ⟨0, by decide, rfl, complete, ?_, last.2 rfl, ?_, start⟩
      · exact fun earlier none => absurd none (Nat.not_lt_zero _)
      · exact fun earlier none => absurd none (Nat.not_lt_zero _)
    · obtain ⟨there, same⟩ := standsAt_tick here more
      have still := same.trans incomplete
      obtain ⟨count, within, reached, ends⟩ := ih there still (by omega)
      rw [if_neg (Bool.eq_false_iff.1 still)]
      exact ⟨count + 1, by omega, reached, ends.tick still (mt last.1 (by omega))⟩

/-- The chip allows a run as many ticks as there are places left. -/
theorem dotsToFrameEnd_of_standsAt {ppu : Ppu} (here : ppu.StandsAt place) :
    ppu.dotsToFrameEnd = 341 * 262 - place := by
  have inside := here.inside
  simp only [Ppu.dotsToFrameEnd, here.line, here.dot]
  split <;> split <;> omega

/-- A frame from a flag that is not set runs to the end of the frame. -/
theorem runFrame_of_incomplete (here : console.chip.StandsAt place)
    (incomplete : console.chip.frameComplete = false) (draw : Bool) :
    ∃ count, place + count < 341 * 262 ∧
      console.runFrame draw = ((console.choosing draw).run (count + 1)).told ∧
      (console.choosing draw).EndsIn count := by
  have chosen : (console.choosing draw).chip.StandsAt place := here.of_grid rfl
  rw [runFrame_eq, dotsToFrameEnd_of_standsAt chosen]
  exact runToFrameEnd_of_incomplete chosen incomplete (by omega)

/-- A frame from a flag that is set is one tick. -/
theorem runFrame_of_complete (here : console.chip.StandsAt place)
    (complete : console.chip.frameComplete = true) (draw : Bool) :
    console.runFrame draw = (console.choosing draw).tick.told ∧
      (console.choosing draw).tick.chip.frameComplete = true := by
  have chosen : (console.choosing draw).chip.StandsAt place := here.of_grid rfl
  have still := frameComplete_tick chosen complete
  have some : ∃ limit, (console.choosing draw).chip.dotsToFrameEnd = limit + 1 := by
    rw [dotsToFrameEnd_of_standsAt chosen]
    have inside := here.inside
    exact ⟨341 * 262 - place - 1, by omega⟩
  obtain ⟨limit, allowed⟩ := some
  rw [runFrame_eq, allowed, runToFrameEnd_succ, if_pos still]
  exact ⟨rfl, still⟩

/-- The picture chip stays on course. -/
theorem lasting_onCourse : Lasting fun machine => machine.bus.ppu.OnCourse where
  powerOn := ⟨341, ⟨by decide, rfl, rfl⟩, fun _ _ => rfl⟩
  insert {machine cartridge} _ _ :=
    Machine.onCourse_reset ⟨machine.cpu, machine.bus.insert cartridge⟩
  act course action := Machine.onCourse_act course action
  told course := course.congr rfl rfl rfl
  inGuise course _ := course.congr rfl rfl rfl

/-- The picture chip of a reachable console is on course. -/
theorem Reachable.onCourse (reachable : console.Reachable) : console.chip.OnCourse :=
  reachable.holds lasting_onCourse

/-- A run of a reachable console ends at one. -/
theorem Reachable.run (reachable : console.Reachable) (count : Nat) :
    (console.run count).Reachable := by
  induction count generalizing console with
  | zero => exact reachable
  | succ count ih => exact ih reachable.tick

/-- A frame of a reachable console ends after no more ticks than a frame has dots, with the first
one that leaves the flag set that a frame has ended. If the flag is not set before, that is the
tick of the next last dot of a frame, and the chip is left at the start of a frame. If it is set,
because ticks were run one by one over the end of a frame or such a state was restored, it is the
very next tick, wherever the chip is. -/
theorem runFrame_of_reachable (reachable : console.Reachable) (draw : Bool) :
    ∃ count < 341 * 262,
      console.runFrame draw = ((console.choosing draw).run (count + 1)).told ∧
      ((console.choosing draw).run (count + 1)).chip.frameComplete = true ∧
      (∀ earlier < count, ((console.choosing draw).run (earlier + 1)).chip.frameComplete = false) ∧
      (console.chip.frameComplete = true → count = 0) ∧
      (console.chip.frameComplete = false →
        ((console.choosing draw).run count).AtLastDot ∧
        (∀ earlier < count, ¬((console.choosing draw).run earlier).AtLastDot) ∧
        (console.runFrame draw).chip.line = -1 ∧ (console.runFrame draw).chip.dot = 0) := by
  obtain ⟨place, here, -⟩ := reachable.onCourse
  cases flag : console.chip.frameComplete with
  | true =>
    obtain ⟨reached, complete⟩ := runFrame_of_complete here flag draw
    refine ⟨0, by decide, reached, complete, ?_, fun _ => rfl, fun no => Bool.noConfusion no⟩
    exact fun earlier none => absurd none (Nat.not_lt_zero _)
  | false =>
    obtain ⟨count, within, reached, ends⟩ := runFrame_of_incomplete here flag draw
    refine ⟨count, by omega, reached, ends.complete, ends.incomplete,
      fun no => Bool.noConfusion no, fun _ => ⟨ends.last, ends.notLast, ?_, ?_⟩⟩
    · rw [reached]
      exact Int16.toInt_inj.1 (standsAt_told ends.start).line
    · rw [reached]
      exact Int16.toInt_inj.1 (standsAt_told ends.start).dot

/-- A console that was ticked over the end of a frame, and is asked for a frame then, goes on by one
dot. -/
theorem runFrame_of_reachable_ticked :
    ∃ ticks, (powerOn.run ticks).Reachable ∧ (powerOn.run ticks).chip.frameComplete = true ∧
      ((powerOn.run ticks).runFrame true).chip.line = -1 ∧
      ((powerOn.run ticks).runFrame true).chip.dot = 1 := by
  obtain ⟨count, -, reached, complete, -, -, fresh⟩ := runFrame_of_reachable .powerOn true
  obtain ⟨-, -, line, dot⟩ := fresh rfl
  have same : powerOn.choosing true = powerOn := rfl
  rw [same] at reached complete
  have reachable := Reachable.powerOn.run (count + 1)
  refine ⟨count + 1, reachable, complete, ?_⟩
  rw [reached] at line dot
  generalize powerOn.run (count + 1) = console at *
  obtain ⟨ticks, -, again, -, -, short, -⟩ := runFrame_of_reachable reachable true
  have first : (console.choosing true).chip.StandsAt 0 := by
    refine ⟨by decide, ?_, ?_⟩
    · exact congrArg Int16.toInt line
    · exact congrArg Int16.toInt dot
  have none := first.leftOut_of_ne (by decide)
  have next := (standsAt_tick first (by omega)).1
  rw [none] at next
  rw [again, short complete]
  exact ⟨Int16.toInt_inj.1 (standsAt_told next).line, Int16.toInt_inj.1 (standsAt_told next).dot⟩

end Nes.Console
