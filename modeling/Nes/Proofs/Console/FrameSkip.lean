import Nes.CommandLine.Report
import Nes.Proofs.Console.Redraw

/-!
# Frames that are not drawn

A frame that is not drawn is played like any other. So what the machine does over any number of
frames does not depend on which of them are drawn (`Alike.play`), and since the last one covers the
screen, what is seen at the end does not either (`FrameStart.play_congr`). The frames that a run of
the command line leaves out by its settings are an instance.
-/
namespace Nes.Console

/-- A frame that is played. -/
structure Frame where
  /-- What is done at the controllers before the frame: in each socket named, exactly the given
  buttons are held down from then on. -/
  presses : List (Nat × UInt8)
  /-- The frame is drawn. -/
  draws : Bool

/-- The console with other buttons held down. -/
def press (console : Console) (presses : List (Nat × UInt8)) : Console :=
  console.mapMachine (·.after (presses.map fun press => .setButtons press.1 press.2))

/-- The console after frames in order. -/
def play (console : Console) : List Frame → Console
  | [] => console
  | frame :: frames => ((console.press frame.presses).runFrame frame.draws).play frames

/-- The number of ticks that a run to the end of a frame takes. -/
def ticksToFrameEnd (console : Console) : (limit : Nat) → Nat
  | 0 => 0
  | limit + 1 =>
    if console.tick.chip.frameComplete then 1 else console.tick.ticksToFrameEnd limit + 1

/-- The number of ticks that a frame takes. -/
def frameTicks (console : Console) (draw : Bool) : Nat :=
  (console.choosing draw).ticksToFrameEnd (console.choosing draw).chip.dotsToFrameEnd

/-- The numbers of ticks that frames take in order. -/
def ticksPlayed (console : Console) : List Frame → List Nat
  | [] => []
  | frame :: frames =>
    (console.press frame.presses).frameTicks frame.draws
      :: ((console.press frame.presses).runFrame frame.draws).ticksPlayed frames

/-- A console that has not reached the end of a frame has nothing to be told. -/
theorem told_of_incomplete {console : Console} (incomplete : console.chip.frameComplete = false) :
    console.told = console := by
  obtain ⟨⟨cpu, bus⟩, screen⟩ := console
  change bus.ppu.frameComplete = false at incomplete
  have same : bus.ppu.takeFrameComplete.2 = bus.ppu := by
    rw [Ppu.takeFrameComplete, ← incomplete]
  rw [told, mapMachine]
  simp only [same]

/-- The ticks of a run to the end of a frame are counted right. -/
theorem runToFrameEnd_eq_run {console : Console} (incomplete : console.chip.frameComplete = false)
    (limit : Nat) :
    console.runToFrameEnd limit = (console.run (console.ticksToFrameEnd limit)).told := by
  induction limit generalizing console with
  | zero => exact (told_of_incomplete incomplete).symm
  | succ limit ih =>
    rw [runToFrameEnd_succ, ticksToFrameEnd]
    split
    next => rfl
    next still => exact ih (Bool.eq_false_iff.2 still)

/-- A frame takes as many ticks as are counted. -/
theorem FrameStart.runFrame_eq_run {console : Console} (start : console.FrameStart) (draw : Bool) :
    console.runFrame draw = ((console.choosing draw).run (console.frameTicks draw)).told := by
  have incomplete : (console.choosing draw).chip.frameComplete = false := start.incomplete
  rw [runFrame_eq, frameTicks]
  exact runToFrameEnd_eq_run incomplete _

/-- Frames are played in order, so a play can be cut anywhere. -/
theorem play_append (console : Console) (frames later : List Frame) :
    console.play (frames ++ later) = (console.play frames).play later := by
  induction frames generalizing console with
  | nil => rfl
  | cons frame frames ih => exact ih _

/-- The picture chip is not reached from the controllers. -/
theorem chip_press (console : Console) (presses : List (Nat × UInt8)) :
    (console.press presses).chip = console.chip := by
  obtain ⟨machine, screen⟩ := console
  change (machine.after _).bus.ppu = machine.bus.ppu
  induction presses generalizing machine with
  | nil => rfl
  | cons press presses ih =>
    refine (ih ⟨machine.cpu, machine.bus.setButtons press.1 press.2⟩).trans ?_
    simp only [Bus.setButtons]
    split <;> rfl

/-- Other buttons leave a console at the start of its frame. -/
theorem FrameStart.press {console : Console} (start : console.FrameStart)
    (presses : List (Nat × UInt8)) : (console.press presses).FrameStart := by
  have chip := console.chip_press presses
  obtain ⟨incomplete, early⟩ := start
  exact ⟨by rw [chip, incomplete], by rwa [chip]⟩

/-- A play ends at the start of a frame again. -/
theorem FrameStart.play {console : Console} (start : console.FrameStart) (frames : List Frame) :
    (console.play frames).FrameStart := by
  induction frames generalizing console with
  | nil => exact start
  | cons frame frames ih => exact ih ((start.press frame.presses).runFrame frame.draws)

/-- The machines of two consoles differ in nothing but the choice whether to draw. -/
def Alike (left right : Console) : Prop :=
  left.machine.withDraws true = right.machine.withDraws true

variable {left right : Console}

namespace Alike

variable (alike : Alike left right)

include alike

/-- Alike consoles have come to the end of a frame together. -/
theorem frameComplete : left.chip.frameComplete = right.chip.frameComplete :=
  congrArg (fun machine => machine.bus.ppu.frameComplete) alike

/-- Alike consoles have the same way to the end of a frame. -/
theorem dotsToFrameEnd : left.chip.dotsToFrameEnd = right.chip.dotsToFrameEnd :=
  congrArg (fun machine => machine.bus.ppu.dotsToFrameEnd) alike

/-- A tick keeps consoles alike. -/
theorem tick : Alike left.tick right.tick := by
  rw [Alike, machine_tick, machine_tick, ← Machine.tick_withDraws, alike, Machine.tick_withDraws]

/-- Being told of the end of a frame keeps consoles alike. -/
theorem told : Alike left.told right.told :=
  congrArg (fun machine : Machine =>
    (⟨machine.cpu, { machine.bus with ppu := machine.bus.ppu.takeFrameComplete.2 }⟩ : Machine))
    alike

/-- Whatever is chosen about drawing on either side, consoles stay alike. -/
theorem choosing (first second : Bool) : Alike (left.choosing first) (right.choosing second) :=
  alike

/-- The same buttons keep consoles alike. -/
theorem press (presses : List (Nat × UInt8)) :
    Alike (left.press presses) (right.press presses) := by
  rw [Alike, Console.press, Console.press, machine_mapMachine, machine_mapMachine,
    ← Machine.after_withDraws, alike, Machine.after_withDraws]

/-- Two runs to the end of a frame take the same number of ticks and stay alike. -/
theorem runToFrameEnd (limit : Nat) :
    Alike (left.runToFrameEnd limit) (right.runToFrameEnd limit) ∧
      left.ticksToFrameEnd limit = right.ticksToFrameEnd limit := by
  induction limit generalizing left right with
  | zero => exact ⟨alike, rfl⟩
  | succ limit ih =>
    have next := alike.tick
    have flag := next.frameComplete
    obtain ⟨rest, ticks⟩ := ih next
    rw [runToFrameEnd_succ, runToFrameEnd_succ, ticksToFrameEnd, ticksToFrameEnd, flag, ticks]
    split
    · exact ⟨next.told, rfl⟩
    · exact ⟨rest, rfl⟩

/-- Frames of alike consoles take one number of ticks and leave them alike, drawn or not. -/
theorem runFrame (first second : Bool) :
    Alike (left.runFrame first) (right.runFrame second) ∧
      left.frameTicks first = right.frameTicks second := by
  have chosen := alike.choosing first second
  rw [runFrame_eq, runFrame_eq, frameTicks, frameTicks, chosen.dotsToFrameEnd]
  exact chosen.runToFrameEnd _

/-- Two plays of the same presses take the same numbers of ticks and stay alike, whichever frames
they draw. -/
theorem play {first second : List Frame} (same : first.map (·.presses) = second.map (·.presses)) :
    Alike (left.play first) (right.play second) ∧
      left.ticksPlayed first = right.ticksPlayed second := by
  induction first generalizing left right second with
  | nil =>
    rw [List.map_nil, eq_comm, List.map_eq_nil_iff] at same
    rw [same]
    exact ⟨alike, rfl⟩
  | cons frame first ih =>
    cases second with
    | nil => cases same
    | cons other second =>
      obtain ⟨presses, later⟩ := List.cons_eq_cons.1 same
      change frame.presses = other.presses at presses
      have pressed := alike.press frame.presses
      rw [presses] at pressed
      obtain ⟨ran, ticks⟩ := pressed.runFrame frame.draws other.draws
      obtain ⟨played, rest⟩ := ih ran later
      rw [Console.play, Console.play, ticksPlayed, ticksPlayed, presses, ticks, rest]
      exact ⟨played, rfl⟩

end Alike

/-- A frame leaves the choice that it was run with. -/
theorem drawsFrame_runFrame (console : Console) (draw : Bool) :
    (console.runFrame draw).chip.drawsFrame = draw := by
  have chosen : (console.choosing draw).chip.drawsFrame = draw := rfl
  rw [runFrame_eq]
  exact runToFrameEnd_keeps (fun console same => (drawsFrame_tick console).trans same)
    (fun _ same => same) chosen _

/-- A machine that draws is the machine with the choice to draw. -/
theorem machine_withDraws_of_draws {console : Console} (draws : console.chip.drawsFrame = true) :
    console.machine.withDraws true = console.machine := by
  rw [← draws]
  rfl

/-- Alike consoles that draw the next frame end it with one machine and one picture. -/
theorem Alike.runFrame_drawn (alike : Alike left right) (start : left.FrameStart) :
    (left.runFrame true).machine = (right.runFrame true).machine ∧
      (left.runFrame true).screen.frame = (right.runFrame true).screen.frame := by
  have ran := (alike.runFrame true true).1
  rw [Alike, machine_withDraws_of_draws (left.drawsFrame_runFrame true),
    machine_withDraws_of_draws (right.drawsFrame_runFrame true)] at ran
  exact ⟨ran, start.frame_runFrame_congr alike⟩

/-- The last of the frames is drawn. -/
def EndsDrawn (frames : List Frame) : Prop := frames.getLast?.map (·.draws) = some true

/-- Frames that end drawn have a drawn frame behind all others. -/
theorem exists_append_of_endsDrawn {frames : List Frame} (drawn : EndsDrawn frames) :
    ∃ earlier presses, frames = earlier ++ [⟨presses, true⟩] := by
  obtain ⟨last, found, draws⟩ := Option.map_eq_some_iff.1 drawn
  obtain ⟨earlier, rfl⟩ := List.getLast?_eq_some_iff.1 found
  obtain ⟨presses, _⟩ := last
  exact ⟨earlier, presses, by rw [← draws]⟩

/-- Two plays of the same presses from the start of a frame that both draw the last frame end with
one machine and one picture. -/
theorem FrameStart.play_congr {console : Console} (start : console.FrameStart)
    {first second : List Frame} (same : first.map (·.presses) = second.map (·.presses))
    (firstDrawn : EndsDrawn first) (secondDrawn : EndsDrawn second) :
    (console.play first).machine = (console.play second).machine ∧
      (console.play first).screen.frame = (console.play second).screen.frame := by
  obtain ⟨first, presses, rfl⟩ := exists_append_of_endsDrawn firstDrawn
  obtain ⟨second, others, rfl⟩ := exists_append_of_endsDrawn secondDrawn
  rw [List.map_append, List.map_append] at same
  obtain ⟨earlier, last⟩ := List.append_inj' same rfl
  obtain rfl : presses = others := (List.cons_eq_cons.1 last).1
  have alike := ((show Alike console console from rfl).play earlier).1.press presses
  have before := (start.play first).press presses
  rw [play_append, play_append]
  exact alike.runFrame_drawn before

end Nes.Console

namespace Nes.CommandLine

open Console

/-- The frames that a run of the command line plays. -/
def framesLeft (settings : Settings) (total : Nat) : Nat → List Frame
  | 0 => []
  | left + 1 =>
    ⟨[], left == 0 || settings.draws (total - (left + 1))⟩ :: framesLeft settings total left

/-- A run of the command line is a play of its frames. -/
theorem runFrames_eq_play (settings : Settings) (total : Nat) (console : Console) (left : Nat) :
    runFrames settings total console left = console.play (framesLeft settings total left) := by
  induction left generalizing console with
  | zero => rfl
  | succ left ih => exact ih _

/-- A run of the command line presses nothing. -/
theorem presses_framesLeft (settings : Settings) (total left : Nat) :
    (framesLeft settings total left).map (·.presses) = List.replicate left [] := by
  induction left with
  | zero => rfl
  | succ left ih => rw [framesLeft, List.map_cons, ih, List.replicate_succ]

/-- The last frame is drawn whatever the settings say. -/
theorem endsDrawn_framesLeft (settings : Settings) (total left : Nat) :
    EndsDrawn (framesLeft settings total (left + 1)) := by
  induction left with
  | zero => rfl
  | succ left ih => rwa [framesLeft, EndsDrawn, framesLeft, List.getLast?_cons_cons, ← framesLeft]

/-- The settings do not decide what a run ends with. -/
theorem runFrames_congr {console : Console} (start : console.FrameStart)
    (first second : Settings) (total left : Nat) :
    (runFrames first total console left).machine = (runFrames second total console left).machine ∧
      (runFrames first total console left).screen.frame
        = (runFrames second total console left).screen.frame := by
  rw [runFrames_eq_play, runFrames_eq_play]
  cases left with
  | zero => exact ⟨rfl, rfl⟩
  | succ left =>
    have same := (presses_framesLeft first total (left + 1)).trans
      (presses_framesLeft second total (left + 1)).symm
    exact start.play_congr same (endsDrawn_framesLeft first total left)
      (endsDrawn_framesLeft second total left)

/-- A console with a cartridge from a file has had it inserted. -/
theorem exists_insert_of_loadRom {console loaded : Console} {path : String}
    {contents : FileContents} (found : console.loadRom path contents = .ok loaded) :
    ∃ cartridge, loaded = console.insert cartridge := by
  rw [Console.loadRom] at found
  cases read : Cartridge.ofFile path contents with
  | error fault =>
    rw [read] at found
    cases found
  | ok cartridge =>
    rw [read] at found
    cases found
    exact ⟨cartridge, rfl⟩

/-- The report of a run does not depend on the settings. -/
theorem run_congr (options : Options) (rom first second : FileContents) :
    run options rom first = run options rom second := by
  simp only [run]
  cases loaded : Console.powerOn.loadRom options.rom rom with
  | error fault => rfl
  | ok console =>
    obtain ⟨cartridge, rfl⟩ := exists_insert_of_loadRom loaded
    have same := (runFrames_congr (frameStart_insert powerOn cartridge)
      (.ofFileOrStandard first) (.ofFileOrStandard second) (options.frames.getD standardFrames)
      (options.frames.getD standardFrames)).1
    simp only [same]

end Nes.CommandLine

namespace Nes.Console

open CommandLine

/-- From the insertion of a cartridge on, a frame is a run of as many ticks as are counted for it,
and two plays of the same presses take the same number of ticks for each frame, whichever frames
they draw. If both draw the last one, they end with one machine and one picture. So a run of the
command line ends with one machine and one picture and gives one report, whatever its settings say
about the frames to be left out. A report does not hold the records of the log, which tell settings
that can not be read from others. -/
theorem play_of_presses (console : Console) (cartridge : Cartridge) :
    let start := console.insert cartridge
    (∀ (frames : List Frame) (presses : List (Nat × UInt8)) (draw : Bool),
      let before := (start.play frames).press presses
      before.runFrame draw = ((before.choosing draw).run (before.frameTicks draw)).told) ∧
    (∀ first second : List Frame, first.map (·.presses) = second.map (·.presses) →
      start.ticksPlayed first = start.ticksPlayed second ∧
      (EndsDrawn first → EndsDrawn second →
        (start.play first).machine = (start.play second).machine ∧
        (start.play first).screen.frame = (start.play second).screen.frame)) ∧
    (∀ (first second : Settings) (total : Nat),
      (runFrames first total start total).machine = (runFrames second total start total).machine ∧
      (runFrames first total start total).screen.frame
        = (runFrames second total start total).screen.frame) ∧
    ∀ (options : Options) (rom first second : FileContents),
      CommandLine.run options rom first = CommandLine.run options rom second := by
  have start := frameStart_insert console cartridge
  have self : Alike (console.insert cartridge) (console.insert cartridge) := rfl
  refine ⟨?_, ?_, ?_, run_congr⟩
  · intro frames presses draw
    exact ((start.play frames).press presses).runFrame_eq_run draw
  · intro first second same
    exact ⟨(self.play same).2, start.play_congr same⟩
  · intro first second total
    exact runFrames_congr start first second total total

/-- A board of kind 4 on which the second button is pressed for the second of two frames ends them
in one way, whether the first one is drawn or not. -/
theorem play_of_presses_bareMmc3 :
    let start := powerOn.insert .bareMmc3
    let skips : List Frame := [⟨[], false⟩, ⟨[(0, 0x02)], true⟩]
    let draws : List Frame := [⟨[], true⟩, ⟨[(0, 0x02)], true⟩]
    start.ticksPlayed skips = start.ticksPlayed draws ∧
      (start.play skips).machine = (start.play draws).machine ∧
      (start.play skips).screen.frame = (start.play draws).screen.frame := by
  obtain ⟨ticks, played⟩ := (play_of_presses powerOn .bareMmc3).2.1
    [⟨[], false⟩, ⟨[(0, 0x02)], true⟩] [⟨[], true⟩, ⟨[(0, 0x02)], true⟩] rfl
  exact ⟨ticks, played rfl rfl⟩

end Nes.Console
