import Nes.Proofs.Bus.Access

/-!
# The ports of the controllers

A port answers with the buttons that were held down when it was written to last, the most
significant one first, and with zeros behind the eighth. What happens at the ports is a list of
events, and what the controller in a socket makes of it is a fold over that list. What carries the
proofs is that a list of events is played by a controller (`Plays`): every answer is the one of the
controller at that point. Then the answers behind a write are read off its buttons at that moment
(`Course.portAnswers_eq`), whatever events lie between them.
-/
namespace Nes

/-- What a register of eight buttons gives in the reads after it was filled, counted from zero. -/
def shiftedOut (buttons : UInt8) (index : Nat) : UInt8 :=
  if index < 8 then (bit buttons (7 - index)).toUInt8 else 0

/-- A read leaves the register with what it gives later. -/
theorem shiftedOut_shiftLeft (buttons : UInt8) (index : Nat) :
    shiftedOut (buttons <<< 1) index = shiftedOut buttons (index + 1) := by
  have moved (place : Nat) : bit (buttons <<< 1) place
      = (decide (place < 8) && (decide (1 ≤ place) && bit buttons (place - 1))) := by
    rw [bit, UInt8.toNat_shiftLeft]
    change (buttons.toNat <<< 1 % 2 ^ 8).testBit place = _
    rw [Nat.testBit_mod_two_pow, Nat.testBit_shiftLeft]
    rfl
  simp only [shiftedOut, moved]
  by_cases inside : index + 1 < 8
  · have one : 1 ≤ 7 - index := by omega
    have small : 7 - index < 8 := by omega
    have place : 7 - index - 1 = 7 - (index + 1) := by omega
    rw [if_pos (by omega), if_pos inside, place]
    simp [one, small]
  · rw [if_neg inside]
    split
    · have last : 7 - index = 0 := by omega
      rw [last]
      rfl
    · rfl

/-- The address of the port of a socket. -/
def portAddress : Fin 2 → UInt16
  | 0 => 0x4016
  | 1 => 0x4017

/-- What can happen at the ports, and at all other addresses. -/
inductive PortEvent where
  /-- Exactly the given buttons of the controller in a socket are held down. -/
  | press (socket : Nat) (buttons : UInt8)
  /-- A read, and its answer. -/
  | read (address : UInt16) (answer : UInt8)
  /-- A write. -/
  | write (address : UInt16) (value : UInt8)
deriving DecidableEq

section Sockets

variable (socket : Fin 2)

namespace PortEvent

/-- The event writes to the port of a socket. -/
def latches : PortEvent → Bool
  | write address _ => address = portAddress socket
  | _ => false

/-- The answer of the port of a socket, if the event reads it. -/
def answer? : PortEvent → Option UInt8
  | read address answer => if address = portAddress socket then some answer else none
  | _ => none

/-- The buttons of the controller in a socket that are held down from an event on, if it changes
them. -/
def pressed? : PortEvent → Option UInt8
  | press other buttons => if other = socket then some buttons else none
  | _ => none

end PortEvent

/-- The answers of the port of a socket, in order. -/
def portAnswers (events : List PortEvent) : List UInt8 :=
  events.filterMap (·.answer? socket)

/-- The buttons that are held down after some events. -/
def heldDown (buttons : UInt8) (events : List PortEvent) : UInt8 :=
  events.foldl (fun buttons event => (event.pressed? socket).getD buttons) buttons

namespace Controller

/-- The controller in a socket after an event. -/
def after (controller : Controller) : PortEvent → Controller
  | .press other buttons => if other = socket then { controller with buttons } else controller
  | .read address _ => if address = portAddress socket then controller.read.2 else controller
  | .write address _ => if address = portAddress socket then controller.latch else controller

/-- The answers among some events are those of the controller in a socket. -/
def Plays : Controller → List PortEvent → Prop
  | _, [] => True
  | controller, event :: later =>
    (∀ answer, event.answer? socket = some answer → answer = controller.read.1) ∧
      Plays (controller.after socket event) later

variable {socket} {controller : Controller}

/-- Only a read of the port and a write to it touch the register. -/
theorem shift_after_of_quiet {event : PortEvent} (kept : event.latches socket = false)
    (silent : event.answer? socket = none) :
    (controller.after socket event).shift = controller.shift := by
  cases event with
  | press other buttons =>
    rw [after]
    split <;> rfl
  | read address answer =>
    have elsewhere : address ≠ portAddress socket := by
      rintro rfl
      simp [PortEvent.answer?] at silent
    rw [after, if_neg elsewhere]
  | write address value => rw [after, if_neg (of_decide_eq_false kept)]

/-- A read of the port shifts. -/
theorem shift_after_of_answer {event : PortEvent} {answer : UInt8}
    (told : event.answer? socket = some answer) :
    (controller.after socket event).shift = controller.shift <<< 1 := by
  cases event with
  | press other buttons => nomatch told
  | read address other =>
    by_cases here : address = portAddress socket
    · rw [after, if_pos here]
      rfl
    · simp [PortEvent.answer?, here] at told
  | write address value => nomatch told

/-- An event changes the buttons only where it presses some on this controller. -/
theorem buttons_after (event : PortEvent) :
    (controller.after socket event).buttons
      = (event.pressed? socket).getD controller.buttons := by
  cases event with
  | press other buttons =>
    rw [after, PortEvent.pressed?]
    split <;> rfl
  | read address answer =>
    rw [after]
    split <;> rfl
  | write address value =>
    rw [after]
    split <;> rfl

/-- The controller has the buttons that are held down. -/
theorem buttons_foldl_after (events : List PortEvent) :
    (events.foldl (after socket) controller).buttons
      = heldDown socket controller.buttons events := by
  induction events generalizing controller with
  | nil => rfl
  | cons event later ih =>
    rw [List.foldl_cons, ih, buttons_after]
    rfl

/-- A controller plays events in order where it plays those before a place and then those behind
it. -/
theorem plays_append (before later : List PortEvent) :
    Plays socket controller (before ++ later)
      ↔ Plays socket controller before ∧
        Plays socket (before.foldl (after socket) controller) later := by
  induction before generalizing controller with
  | nil => exact ⟨fun plays => ⟨trivial, plays⟩, And.right⟩
  | cons event before ih =>
    rw [List.cons_append, Plays, Plays, ih, List.foldl_cons, and_assoc]

/-- Up to the next write the port shifts the register out. -/
theorem Plays.portAnswers_eq {events : List PortEvent} (plays : Plays socket controller events) :
    let quiet := events.takeWhile (!·.latches socket)
    portAnswers socket quiet
      = (List.range (portAnswers socket quiet).length).map (shiftedOut controller.shift) := by
  dsimp only
  induction events generalizing controller with
  | nil => rfl
  | cons event later ih =>
    obtain ⟨first, rest⟩ := plays
    have told := ih rest
    rw [List.takeWhile_cons]
    cases kept : event.latches socket
    case true => rfl
    case false =>
      simp only [Bool.not_false, if_true]
      cases answered : event.answer? socket with
      | none =>
        rw [shift_after_of_quiet kept answered] at told
        rw [portAnswers, List.filterMap_cons_none answered]
        exact told
      | some answer =>
        rw [shift_after_of_answer answered] at told
        have following : shiftedOut (controller.shift <<< 1)
            = fun index => shiftedOut controller.shift (index + 1) :=
          funext (shiftedOut_shiftLeft controller.shift)
        rw [following] at told
        rw [portAnswers, List.filterMap_cons_some answered, List.length_cons,
          List.range_succ_eq_map, List.map_cons, List.map_map]
        exact List.cons_eq_cons.2 ⟨first answer answered, told⟩

variable (socket) in
/-- A controller goes from one state to another by some events. -/
structure Course (before : Controller) (events : List PortEvent) (after : Controller) : Prop where
  /-- The answers are those of the controller. -/
  plays : Plays socket before events
  /-- The events lead there. -/
  ends : events.foldl (Controller.after socket) before = after

/-- Nothing happens in the course without events. -/
theorem Course.nil (controller : Controller) : Course socket controller [] controller :=
  ⟨trivial, rfl⟩

/-- Courses follow on each other. -/
theorem Course.append {first second third : Controller} {before later : List PortEvent}
    (left : Course socket first before second) (right : Course socket second later third) :
    Course socket first (before ++ later) third := by
  obtain ⟨plays, rfl⟩ := left
  obtain ⟨played, rfl⟩ := right
  exact ⟨(plays_append before later).2 ⟨plays, played⟩, List.foldl_append⟩

/-- An event that the port does not answer makes a course. -/
theorem Course.silent {event : PortEvent} (silent : event.answer? socket = none) :
    Course socket controller [event] (controller.after socket event) := by
  refine ⟨⟨fun answer told => ?_, trivial⟩, rfl⟩
  rw [silent] at told
  nomatch told

/-- Behind a write and up to the next one, the port shifts out the buttons that were held down when
it was written to. -/
theorem Course.portAnswers_eq {first last : Controller} {before later : List PortEvent}
    {value : UInt8}
    (course : Course socket first (before ++ .write (portAddress socket) value :: later) last) :
    let quiet := later.takeWhile (!·.latches socket)
    portAnswers socket quiet
      = (List.range (portAnswers socket quiet).length).map
          (shiftedOut (heldDown socket first.buttons before)) := by
  obtain ⟨-, -, plays⟩ := (plays_append _ _).1 course.plays
  have latched : ((before.foldl (Controller.after socket) first).after socket
      (.write (portAddress socket) value)).shift = heldDown socket first.buttons before := by
    rw [after, if_pos rfl, ← buttons_foldl_after]
    rfl
  rw [← latched]
  exact plays.portAnswers_eq

end Controller

namespace Bus

/-- The controller in a socket. -/
def controller (bus : Bus) : Fin 2 → Controller
  | 0 => bus.controller0
  | 1 => bus.controller1

variable (bus : Bus)

/-- The ports lie below all that cartridges claim. -/
theorem portAddress_lt : portAddress socket < 0x6000 := by
  revert socket
  decide

/-- A read elsewhere leaves the controllers alone. -/
theorem controller_read_of_ne {address : UInt16} (elsewhere : address ≠ portAddress socket) :
    (bus.read address).2.controller socket = bus.controller socket := by
  rw [read]
  split
  · rfl
  simp only [readUnclaimed]
  split
  · rfl
  split
  · rfl
  split
  case isTrue first =>
    obtain rfl | rfl : socket = 0 ∨ socket = 1 := by omega
    · exact absurd first elsewhere
    · rfl
  split
  case isTrue second =>
    obtain rfl | rfl : socket = 0 ∨ socket = 1 := by omega
    · rfl
    · exact absurd second elsewhere
  · rfl

/-- A write elsewhere leaves the controllers alone. -/
theorem controller_write_of_ne {address : UInt16} (elsewhere : address ≠ portAddress socket)
    (value : UInt8) : (bus.write address value).controller socket = bus.controller socket := by
  have unclaimed (bus : Bus) :
      (bus.writeUnclaimed address value).controller socket = bus.controller socket := by
    simp only [writeUnclaimed]
    split
    · rfl
    split
    · rfl
    split
    · rfl
    split
    case isTrue first =>
      obtain rfl | rfl : socket = 0 ∨ socket = 1 := by omega
      · exact absurd first elsewhere
      · rfl
    split
    case isTrue second =>
      obtain rfl | rfl : socket = 0 ∨ socket = 1 := by omega
      · rfl
      · exact absurd second elsewhere
    · rfl
  rw [write]
  split
  · exact unclaimed bus
  dsimp only
  split
  · rfl
  · exact unclaimed _

/-- The port answers for its controller, whatever cartridge is inserted. -/
theorem read_port :
    (bus.read (portAddress socket)).1 = (bus.controller socket).read.1 ∧
      (bus.read (portAddress socket)).2.controller socket = (bus.controller socket).read.2 := by
  rw [bus.read_of_low (portAddress_lt socket)]
  revert socket
  exact Fin.forall_fin_two.2 ⟨⟨rfl, rfl⟩, rfl, rfl⟩

/-- A write of any value to a port latches the buttons of its controller. -/
theorem write_port (value : UInt8) :
    (bus.write (portAddress socket) value).controller socket
      = (bus.controller socket).latch := by
  rw [bus.write_of_low (portAddress_lt socket)]
  revert socket
  exact Fin.forall_fin_two.2 ⟨rfl, rfl⟩

open Controller (Course)

/-- Every read makes a course, with the byte that it returns for its answer. -/
theorem course_read (address : UInt16) :
    Course socket (bus.controller socket) [.read address (bus.read address).1]
      ((bus.read address).2.controller socket) := by
  by_cases here : address = portAddress socket
  · subst here
    obtain ⟨answer, next⟩ := bus.read_port socket
    refine ⟨⟨fun told same => ?_, trivial⟩, ?_⟩
    · rw [PortEvent.answer?, if_pos rfl] at same
      exact (Option.some.inj same).symm.trans answer
    · rw [next]
      exact if_pos rfl
  · rw [bus.controller_read_of_ne socket here]
    refine ⟨⟨fun told same => ?_, trivial⟩, if_neg here⟩
    rw [PortEvent.answer?, if_neg here] at same
    nomatch same

/-- So does every write. -/
theorem course_write (address : UInt16) (value : UInt8) :
    Course socket (bus.controller socket) [.write address value]
      ((bus.write address value).controller socket) := by
  have next : (bus.write address value).controller socket
      = (bus.controller socket).after socket (.write address value) := by
    rw [Controller.after]
    split
    case isTrue here => rw [here, write_port]
    case isFalse elsewhere => exact bus.controller_write_of_ne socket elsewhere value
  rw [next]
  exact .silent rfl

/-- And every change of the buttons that are held down. -/
theorem course_setButtons (other : Nat) (buttons : UInt8) :
    Course socket (bus.controller socket) [.press other buttons]
      ((bus.setButtons other buttons).controller socket) := by
  have next : (bus.setButtons other buttons).controller socket
      = (bus.controller socket).after socket (.press other buttons) := by
    match other, socket with
    | 0, 0 | 0, 1 | 1, 0 | 1, 1 => rfl
    | other + 2, socket =>
      have neither : other + 2 ≠ socket := by omega
      exact (if_neg neither).symm
  rw [next]
  exact .silent rfl

end Bus

end Sockets

end Nes
