import Nes.Proofs.Machine.Guise
import Nes.Proofs.Machine.Sound

/-!
# Machines in use

What can be done to a machine from outside is one of a few actions (`Machine.Action`), and an
action shows at most a byte that was read or a pixel that was drawn. Two machines that differ in
their guise alone go through the same states under the same actions and show the same bytes; they
show the same pixels where both draw or neither does.
-/
namespace Nes.Machine

/-- What can be done to a machine. -/
inductive Action where
  /-- One tick. -/
  | tick
  /-- A reset. -/
  | reset
  /-- Exactly the given buttons of the controller in a socket are held down. -/
  | setButtons (socket : Nat) (buttons : UInt8)
  /-- A read of the bus. -/
  | read (address : UInt16)
  /-- A write to the bus. -/
  | write (address : UInt16) (value : UInt8)
deriving DecidableEq

/-- What an action shows. -/
structure Shown where
  /-- The byte that was read. -/
  byte : Option UInt8
  /-- The pixel that was made. -/
  pixel : Option Pixel

/-- An action that shows nothing. -/
def Shown.nothing : Shown := ⟨none, none⟩

/-- What an action shows, and the machine after it. -/
def act (machine : Machine) : Action → Shown × Machine
  | .tick => (⟨none, machine.tick.1⟩, machine.tick.2)
  | .reset => (.nothing, machine.reset)
  | .setButtons socket buttons =>
    (.nothing, ⟨machine.cpu, machine.bus.setButtons socket buttons⟩)
  | .read address =>
    (⟨some (machine.bus.read address).1, none⟩, ⟨machine.cpu, (machine.bus.read address).2⟩)
  | .write address value => (.nothing, ⟨machine.cpu, machine.bus.write address value⟩)

/-- The machine after actions in order. -/
def after (machine : Machine) : List Action → Machine
  | [] => machine
  | action :: actions => (machine.act action).2.after actions

/-- What actions in order show. -/
def shown (machine : Machine) : List Action → List Shown
  | [] => []
  | action :: actions => (machine.act action).1 :: (machine.act action).2.shown actions

/-- The bytes that actions in order read. -/
def bytesRead (machine : Machine) (actions : List Action) : List UInt8 :=
  (machine.shown actions).filterMap (·.byte)

/-- The pixels that actions in order draw. -/
def pixelsDrawn (machine : Machine) (actions : List Action) : List Pixel :=
  (machine.shown actions).filterMap (·.pixel)

/-- Actions in order are those before any place in their order and those after it. -/
theorem after_append (machine : Machine) (first second : List Action) :
    machine.after (first ++ second) = (machine.after first).after second := by
  induction first generalizing machine with
  | nil => rfl
  | cons action first ih => exact ih (machine.act action).2

/-- An action of a kind is taken in the course of actions in order. The kind may depend on the
machine that the action is taken on. -/
def Meets (machine : Machine) (kind : Machine → Action → Prop) (actions : List Action) : Prop :=
  ∃ before action later, actions = before ++ action :: later ∧
    kind (machine.after before) action

/-- What only actions of a kind end holds until the first of them. -/
theorem holds_or_meets {Holds : Machine → Prop} {kind : Machine → Action → Prop}
    (step : ∀ machine action, Holds machine →
      Holds (machine.act action).2 ∨ kind machine action)
    {machine : Machine} (holds : Holds machine) (actions : List Action) :
    Holds (machine.after actions) ∨ machine.Meets kind actions := by
  induction actions generalizing machine with
  | nil => exact .inl holds
  | cons action actions ih =>
    rcases step machine action holds with still | met
    · rcases ih still with kept | ⟨before, other, later, rfl, met⟩
      · exact .inl kept
      · exact .inr ⟨action :: before, other, later, rfl, met⟩
    · exact .inr ⟨[], action, actions, rfl, met⟩

/-- Every action keeps a machine sound. -/
theorem sound_act {machine : Machine} (sound : machine.bus.Sound) (action : Action) :
    (machine.act action).2.bus.Sound := by
  cases action with
  | tick =>
    simp only [act]
    exact sound_tick sound
  | reset => exact sound_reset sound
  | setButtons socket buttons => exact sound_setButtons sound socket buttons
  | read address => exact sound.read address
  | write address value => exact sound.write address value

/-- Actions in order keep a machine sound. -/
theorem sound_after {machine : Machine} (sound : machine.bus.Sound) (actions : List Action) :
    (machine.after actions).bus.Sound := by
  induction actions generalizing machine with
  | nil => exact sound
  | cons action actions ih => exact ih (sound_act sound action)

section Guises

variable (machine : Machine) (guise : Guise)

/-- An action takes a machine in a guise to the same machine in that guise. -/
theorem act_inGuise (action : Action) :
    ((machine.inGuise guise).act action).2 = (machine.act action).2.inGuise guise := by
  cases action with
  | tick =>
    simp only [act]
    exact machine.tick_inGuise guise
  | reset => exact machine.reset_inGuise guise
  | setButtons socket buttons =>
    exact congrArg (Machine.mk machine.cpu) (setButtons_inGuise guise machine.bus socket buttons)
  | read address =>
    exact congrArg (fun outcome => Machine.mk machine.cpu outcome.2)
      (machine.bus.read_inGuise guise address)
  | write address value =>
    exact congrArg (Machine.mk machine.cpu) (machine.bus.write_inGuise guise address value)

/-- The byte that an action shows does not depend on the guise. -/
theorem byte_act_inGuise (action : Action) :
    ((machine.inGuise guise).act action).1.byte = (machine.act action).1.byte := by
  cases action with
  | read address =>
    exact congrArg (fun outcome => some outcome.1) (machine.bus.read_inGuise guise address)
  | _ => exact show (none : Option UInt8) = none from rfl

/-- An action draws one pixel in every guise that draws as the machine does. -/
theorem pixel_act_inGuise (same : guise.draws = machine.bus.ppu.drawsFrame) (action : Action) :
    ((machine.inGuise guise).act action).1.pixel = (machine.act action).1.pixel := by
  cases action with
  | tick =>
    simp only [act]
    rw [tick_pixel, tick_pixel, clockPicture_pixel_inGuise machine guise same]
  | _ => exact show (none : Option Pixel) = none from rfl

/-- Actions in order have one effect in every guise. -/
theorem after_inGuise (actions : List Action) :
    (machine.inGuise guise).after actions = (machine.after actions).inGuise guise := by
  induction actions generalizing machine with
  | nil => rfl
  | cons action actions ih =>
    rw [after, act_inGuise, ih]
    rfl

/-- The bytes that actions read do not depend on the guise. -/
theorem bytesRead_inGuise (actions : List Action) :
    (machine.inGuise guise).bytesRead actions = machine.bytesRead actions := by
  induction actions generalizing machine with
  | nil => rfl
  | cons action actions ih =>
    have rest := ih (machine.act action).2
    simp only [bytesRead, shown, List.filterMap_cons, act_inGuise, byte_act_inGuise] at rest ⊢
    rw [rest]

end Guises

/-- The guise of a machine. Without a cartridge there is no label to take. -/
def guise (machine : Machine) : Guise where
  label := (machine.bus.slot.getD .blank).label
  draws := machine.bus.ppu.drawsFrame

/-- A machine in its own guise is the machine itself. -/
theorem inGuise_guise (machine : Machine) : machine.inGuise machine.guise = machine := by
  obtain ⟨cpu, ram, ppu, controller0, controller1, _ | cartridge, ticks, transfer⟩ := machine
  · rfl
  · rfl

/-- No actions change what a machine is in the guise of. -/
theorem after_wears {machine : Machine} {own : Guise} (wears : machine.inGuise own = machine)
    (actions : List Action) : (machine.after actions).inGuise own = machine.after actions := by
  rw [← after_inGuise, wears]

/-- A machine draws as its guise says. -/
theorem drawsFrame_of_wears {machine : Machine} {own : Guise}
    (wears : machine.inGuise own = machine) : machine.bus.ppu.drawsFrame = own.draws := by
  rw [← wears]
  rfl

/-- Actions in order draw the same pixels in every guise that draws as the machine does. -/
theorem pixelsDrawn_inGuise (machine : Machine) {guise : Guise}
    (same : guise.draws = machine.bus.ppu.drawsFrame) (actions : List Action) :
    (machine.inGuise guise).pixelsDrawn actions = machine.pixelsDrawn actions := by
  induction actions generalizing machine with
  | nil => rfl
  | cons action actions ih =>
    have worn := after_wears machine.inGuise_guise [action]
    have stillSame : guise.draws = (machine.act action).2.bus.ppu.drawsFrame :=
      same.trans (drawsFrame_of_wears worn).symm
    have rest := ih (machine.act action).2 stillSame
    have pixel := machine.pixel_act_inGuise guise same action
    simp only [pixelsDrawn, shown, List.filterMap_cons, act_inGuise, pixel] at rest ⊢
    rw [rest]

/-- The machine with another choice whether to draw. -/
def withDraws (machine : Machine) (draws : Bool) : Machine :=
  ⟨machine.cpu, { machine.bus with ppu := machine.bus.ppu.withDraws draws }⟩

/-- The choice is one part of the guise. -/
theorem withDraws_of_wears {machine : Machine} {own : Guise}
    (wears : machine.inGuise own = machine) (draws : Bool) :
    machine.withDraws draws = machine.inGuise ⟨own.label, draws⟩ := by
  have shown : (machine.inGuise own).withDraws draws = machine.inGuise ⟨own.label, draws⟩ := by
    obtain ⟨cpu, ram, ppu, controller0, controller1, _ | cartridge, ticks, transfer⟩ := machine
    · rfl
    · rfl
  rwa [wears] at shown

/-- Actions in order have one effect whether or not the frame is drawn. -/
theorem after_withDraws (machine : Machine) (draws : Bool) (actions : List Action) :
    (machine.withDraws draws).after actions = (machine.after actions).withDraws draws := by
  have own := machine.inGuise_guise
  rw [withDraws_of_wears own, after_inGuise, withDraws_of_wears (after_wears own actions)]

/-- So has a tick. -/
theorem tick_withDraws (machine : Machine) (draws : Bool) :
    (machine.withDraws draws).tick.2 = machine.tick.2.withDraws draws :=
  machine.after_withDraws draws [.tick]

end Nes.Machine
