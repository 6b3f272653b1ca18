import Nes.Console
import Nes.Proofs.Machine.Stored

/-!
# Reachable consoles

A console is reachable if it comes from power-on by inserting accepted cartridges, by running,
resetting and accessing the machine in any order, and by restoring states that were saved from
reachable consoles. The machine of a reachable console is sound, and has every property that the
machine at power-on has and that no use of a console ends (`Reachable.holds`).
-/
namespace Nes.Console

/-- A console that use can lead to. -/
inductive Reachable : Console → Prop where
  /-- The console at power-on. -/
  | powerOn : Reachable .powerOn
  /-- An accepted cartridge is inserted. -/
  | insert {console : Console} {cartridge : Cartridge} (reachable : Reachable console)
    (accepted : cartridge.Accepted) : Reachable (console.insert cartridge)
  /-- The machine is reset. -/
  | reset {console : Console} (reachable : Reachable console) : Reachable console.reset
  /-- One tick. -/
  | tick {console : Console} (reachable : Reachable console) : Reachable console.tick
  /-- One frame, drawn or not. -/
  | runFrame {console : Console} (reachable : Reachable console) (draw : Bool) :
    Reachable (console.runFrame draw)
  /-- Buttons are pressed, or the bus is read or written, or the machine is ticked or reset
  without a screen. -/
  | act {console : Console} (reachable : Reachable console) (action : Machine.Action) :
    Reachable (console.mapMachine fun machine => (machine.act action).2)
  /-- A saved state is restored. -/
  | restore {console saved restored : Console} {bytes : List UInt8}
    (reachable : Reachable console) (savedReachable : Reachable saved)
    (stored : saved.machine.encode = .ok bytes) (read : console.restore bytes = .ok restored) :
    Reachable restored

/-- What changes the machine of a console is done to that machine. -/
theorem machine_mapMachine (console : Console) (change : Machine → Machine) :
    (console.mapMachine change).machine = change console.machine := by
  rw [mapMachine]

/-- Drawing a pixel has no part in the machine. -/
theorem machine_tick (console : Console) : console.tick.machine = console.machine.tick.2 := by
  obtain ⟨machine, screen⟩ := console
  simp only [tick]

/-- What can be done to the machine of a reachable console, one action after another. -/
theorem Reachable.after {console : Console} (reachable : Reachable console)
    (actions : List Machine.Action) :
    Reachable (console.mapMachine fun machine => machine.after actions) := by
  induction actions generalizing console with
  | nil => exact reachable
  | cons action actions ih => exact ih (reachable.act action)

/-- The picture chip. -/
def chip (console : Console) : Ppu := console.machine.bus.ppu

/-- The console with the choice made whether to draw. -/
def choosing (console : Console) (draw : Bool) : Console :=
  console.mapMachine fun machine =>
    { machine with bus := { machine.bus with ppu := { machine.bus.ppu with drawsFrame := draw } } }

/-- The console once it has been told that a frame has ended. -/
def told (console : Console) : Console :=
  console.mapMachine fun machine =>
    { machine with bus := { machine.bus with ppu := machine.bus.ppu.takeFrameComplete.2 } }

/-- A frame is a run to its end with the choice made whether to draw. -/
theorem runFrame_eq (console : Console) (draw : Bool) :
    console.runFrame draw
      = (console.choosing draw).runToFrameEnd (console.choosing draw).chip.dotsToFrameEnd := rfl

/-- A tick of a run to the end of a frame. -/
theorem runToFrameEnd_succ (console : Console) (limit : Nat) :
    console.runToFrameEnd (limit + 1)
      = if console.tick.chip.frameComplete then console.tick.told
        else console.tick.runToFrameEnd limit := by
  rw [runToFrameEnd]
  rfl

/-- What ticks keep and the end of a frame keeps, a run to the end of a frame keeps. -/
theorem runToFrameEnd_keeps {Holds : Console → Prop}
    (tick : ∀ console, Holds console → Holds console.tick)
    (told : ∀ console, Holds console → Holds console.told) {console : Console}
    (holds : Holds console) (limit : Nat) : Holds (console.runToFrameEnd limit) := by
  induction limit generalizing console with
  | zero => exact holds
  | succ limit ih =>
    have ticked := tick console holds
    rw [runToFrameEnd_succ]
    generalize console.tick = next at ticked ⊢
    split
    · exact told next ticked
    · exact ih ticked

/-- A console is restored where its machine is, and its screen stays. -/
theorem restore_eq (console : Console) (bytes : List UInt8) :
    console.restore bytes
      = (console.machine.restore bytes).map fun machine => { console with machine } := by
  rw [restore, tryRestore]
  cases console.machine.restore bytes <;> rfl

/-- A restored console has the machine that the bytes restore. -/
theorem machine_of_restore {console restored : Console} {bytes : List UInt8}
    (read : console.restore bytes = .ok restored) :
    console.machine.restore bytes = .ok restored.machine := by
  rw [restore_eq] at read
  rcases found : console.machine.restore bytes with fault | machine
  · rw [found] at read
    cases read
  · rw [found] at read
    cases read
    rfl

/-- What is restored is the saved machine in another guise with its path. -/
theorem exists_guise_of_restore {console saved restored : Console} {bytes : List UInt8}
    (sound : saved.machine.bus.Sound) (stored : saved.machine.encode = .ok bytes)
    (read : console.restore bytes = .ok restored) :
    ∃ guise : Guise, guise.label.storedPath = saved.machine.guise.label.storedPath ∧
      restored.machine = saved.machine.inGuise guise := by
  have machine := machine_of_restore read
  rcases inserted : saved.machine.bus.slot with _ | cartridge
  · rw [Machine.encode, inserted] at stored
    cases stored
  · rw [Machine.restore_encode sound inserted stored] at machine
    exact ⟨_, Machine.storedPath_restoredGuise inserted console.machine,
      (Except.ok.inj machine).symm⟩

/-- The machine of a reachable console is sound. -/
theorem Reachable.sound {console : Console} (reachable : Reachable console) :
    console.machine.bus.Sound := by
  induction reachable with
  | powerOn => exact Bus.sound_powerOn
  | insert reachable accepted ih =>
    rw [Console.insert, machine_mapMachine]
    exact Machine.sound_insert ih accepted.storable
  | reset reachable ih =>
    rw [Console.reset, machine_mapMachine]
    exact Machine.sound_reset ih
  | tick reachable ih =>
    rw [machine_tick]
    exact Machine.sound_tick ih
  | @runFrame console reachable draw ih =>
    have chosen : (console.choosing draw).machine.bus.Sound := ⟨ih.slot, ih.status, ih.ready⟩
    have ticked (console : Console) (sound : console.machine.bus.Sound) :
        console.tick.machine.bus.Sound := by
      rw [machine_tick]
      exact Machine.sound_tick sound
    exact runToFrameEnd_keeps ticked
      (fun console sound => ⟨sound.slot, sound.status, sound.ready⟩) chosen _
  | act reachable action ih =>
    rw [machine_mapMachine]
    exact Machine.sound_act ih action
  | restore reachable savedReachable stored read ih savedSound =>
    obtain ⟨guise, path, restored⟩ := exists_guise_of_restore savedSound stored read
    rw [restored]
    exact Machine.sound_inGuise savedSound path

/-- A property of machines that no use of a machine ends. -/
structure Upheld (Holds : Machine → Prop) : Prop where
  /-- Whatever is done to a machine keeps the property. -/
  act : ∀ {machine}, Holds machine → ∀ action, Holds (machine.act action).2
  /-- The mark of a frame that has ended has no part in the property. -/
  told : ∀ {machine : Machine}, Holds machine →
    Holds ⟨machine.cpu, { machine.bus with ppu := machine.bus.ppu.takeFrameComplete.2 }⟩
  /-- Nor has the guise. -/
  inGuise : ∀ {machine}, Holds machine → ∀ guise, Holds (machine.inGuise guise)

/-- A property of machines that no use of a console ends. -/
structure Lasting (Holds : Machine → Prop) : Prop extends Upheld Holds where
  /-- The machine at power-on has the property. -/
  powerOn : Holds .powerOn
  /-- Accepted cartridges may be inserted. -/
  insert : ∀ {machine} {cartridge : Cartridge}, Holds machine → cartridge.Accepted →
    Holds (machine.insert cartridge)

namespace Upheld

variable {Holds : Machine → Prop} (upheld : Upheld Holds) {console : Console}

include upheld

/-- A tick of the console keeps what is upheld. -/
theorem tick (holds : Holds console.machine) : Holds console.tick.machine := by
  have ticked := upheld.act holds .tick
  simp only [Machine.act] at ticked
  rw [machine_tick]
  exact ticked

/-- A run keeps what is upheld. -/
theorem run (holds : Holds console.machine) (count : Nat) : Holds (console.run count).machine := by
  induction count generalizing console with
  | zero => exact holds
  | succ count ih => exact ih (upheld.tick holds)

/-- The choice whether to draw is one of the guise. -/
theorem choosing (holds : Holds console.machine) (draw : Bool) :
    Holds (console.choosing draw).machine := by
  change Holds (console.machine.withDraws draw)
  rw [Machine.withDraws_of_wears console.machine.inGuise_guise]
  exact upheld.inGuise holds _

/-- A frame keeps what is upheld, and so does the choice whether to draw it. -/
theorem runFrame (holds : Holds console.machine) (draw : Bool) :
    Holds (console.runFrame draw).machine := by
  have ticked (console : Console) (holds : Holds console.machine) :
      Holds console.tick.machine := upheld.tick holds
  have told (console : Console) (holds : Holds console.machine) :
      Holds console.told.machine := upheld.told holds
  rw [runFrame_eq]
  exact runToFrameEnd_keeps ticked told (upheld.choosing holds draw) _

/-- A restored machine has what the saved one has. -/
theorem restore {saved restored : Console} {bytes : List UInt8} (reachable : Reachable saved)
    (holds : Holds saved.machine) (stored : saved.machine.encode = .ok bytes)
    (read : console.restore bytes = .ok restored) : Holds restored.machine := by
  obtain ⟨guise, -, restored⟩ := exists_guise_of_restore reachable.sound stored read
  rw [restored]
  exact upheld.inGuise holds guise

end Upheld

/-- The machine of a reachable console has every lasting property. -/
theorem Reachable.holds {Holds : Machine → Prop} (lasting : Lasting Holds) {console : Console}
    (reachable : Reachable console) : Holds console.machine := by
  induction reachable with
  | powerOn => exact lasting.powerOn
  | insert reachable accepted ih =>
    rw [Console.insert, machine_mapMachine]
    exact lasting.insert ih accepted
  | reset reachable ih => exact lasting.act ih .reset
  | tick reachable ih => exact lasting.tick ih
  | runFrame reachable draw ih => exact lasting.runFrame ih draw
  | act reachable action ih =>
    rw [machine_mapMachine]
    exact lasting.act ih action
  | restore reachable savedReachable stored read ih savedHolds =>
    exact lasting.restore savedReachable savedHolds stored read

end Nes.Console
