import Nes.Proofs.Bus.ControllerPort
import Nes.Proofs.Cartridge.Restored
import Nes.Proofs.Machine.Clock
import Nes.Proofs.Machine.Stored

/-!
# The ports of the controllers in a machine

The processor, the transfers into sprite memory and whoever holds the bus read the ports, and
between their reads a machine is reset, gets other cartridges, or goes on from its stored bytes. The
events at the bus are recorded in the course of all that (`Machine.events`). What carries the proofs
is that everything that happens to a machine takes the controller of a socket along a course of the
events recorded (`Machine.course_events`), so that the ports answer as they do at the bus.
-/
namespace Nes

open Controller (Course)

/-- A bus with a record of the events at it. -/
structure Bus.Recorded where
  /-- The bus that answers. -/
  bus : Bus
  /-- The events so far. -/
  events : List PortEvent

instance : Cpu.AddressSpace Bus.Recorded where
  read recorded address :=
    let (answer, bus) := recorded.bus.read address
    (answer, ⟨bus, recorded.events ++ [.read address answer]⟩)
  write recorded address value :=
    ⟨recorded.bus.write address value, recorded.events ++ [.write address value]⟩

/-- A bus without events so far. -/
def Bus.recorded (bus : Bus) : Bus.Recorded := ⟨bus, []⟩

/-- A bus is recorded, and the record is a course of the controller in a socket. -/
structure Bus.Follows (socket : Fin 2) (first : Controller) (recorded : Bus.Recorded) (bus : Bus) :
    Prop where
  /-- The bus is the recorded one. -/
  same : recorded.bus = bus
  /-- The events lead to its controller. -/
  course : Course socket first recorded.events (bus.controller socket)

section Socket

variable (socket : Fin 2)

/-- A record without events is a course of the controller as it is. -/
theorem Bus.follows_recorded (bus : Bus) :
    Bus.Follows socket (bus.controller socket) bus.recorded bus :=
  ⟨rfl, .nil _⟩

/-- Recorded and not, the processor does the same. -/
theorem Bus.follows_simulation (first : Controller) :
    Cpu.Simulation (Bus.Follows socket first) fun _ => True where
  read := by
    rintro recorded _ address ⟨rfl, course⟩
    exact ⟨_, _, _, rfl, rfl, rfl, course.append (recorded.bus.course_read socket address)⟩
  write := by
    rintro recorded _ address value _ ⟨rfl, course⟩
    exact ⟨rfl, course.append (recorded.bus.course_write socket address value)⟩

variable {socket}

/-- Agreement over a recorded bus and the bus itself makes the record a course. -/
theorem Cpu.Agree.course {α : Type} {first : Controller} {left : α × Bus.Recorded}
    {right : α × Bus} (agree : Cpu.Agree (Bus.Follows socket first) left right) :
    Course socket first left.2.events (right.2.controller socket) := by
  obtain ⟨_, _, _, rfl, rfl, follows⟩ := agree
  exact follows.course

end Socket

namespace Machine

/-- The event of a cycle of a transfer into sprite memory, if it reads a byte. -/
def transferEvents (bus : Bus) : List PortEvent :=
  match bus.transferTurn with
  | .read address answer => [.read address answer]
  | _ => []

/-- The events of the turn that the processor has at this point of a tick, if it has one. -/
def turnEvents (machine : Machine) : List PortEvent :=
  if machine.isProcessorTick then
    if machine.bus.transferring then transferEvents machine.bus
    else (machine.cpu.step machine.bus.recorded).2.events
  else []

/-- The events of the delivery of the interrupt of the picture chip. -/
def nmiEvents (machine : Machine) : List PortEvent :=
  if machine.bus.ppu.nmiPending then
    let bus := { machine.bus with ppu := { machine.bus.ppu with nmiPending := false } }
    (machine.cpu.nmi bus.recorded).2.events
  else []

/-- The events of the delivery of the interrupt of the cartridge. -/
def irqEvents (machine : Machine) : List PortEvent :=
  match machine.bus.slot with
  | none => []
  | some cartridge =>
    if cartridge.irqPending then
      let bus := { machine.bus with slot := some cartridge.acknowledge }
      (machine.cpu.irq bus.recorded).2.events
    else []

/-- The events of a tick. -/
def tickEvents (machine : Machine) : List PortEvent :=
  let dot := machine.clockPicture.2
  dot.turnEvents ++ dot.turn.nmiEvents ++ dot.turn.deliverNmi.irqEvents

/-- The events of a reset. -/
def resetEvents (machine : Machine) : List PortEvent :=
  let bus := { machine.bus with slot := machine.bus.slot.map Cartridge.reset }
  (machine.cpu.reset bus.recorded).2.events

section Courses

variable (socket : Fin 2) (machine : Machine)

/-- A cycle of a transfer takes the controllers along its read. -/
theorem course_transferCycle (bus : Bus) :
    Course socket (bus.controller socket) (transferEvents bus)
      ((transferCycle bus).controller socket) := by
  rw [transferEvents]
  cases waits : bus.transfer.idle with
  | true =>
    rw [Bus.transferTurn_of_idle waits, transferCycle_of_idle waits]
    exact .nil _
  | false =>
    by_cases odd : bus.ticks % 2 = 1
    · rw [Bus.transferTurn_of_odd waits odd, transferCycle_of_odd waits odd]
      exact .nil _
    · rw [Bus.transferTurn_of_even waits odd, transferCycle_of_even waits odd]
      exact bus.course_read socket _

/-- The turn of the processor takes the controllers along its accesses. -/
theorem course_turn :
    Course socket (machine.bus.controller socket) machine.turnEvents
      (machine.turn.bus.controller socket) := by
  rw [turn, turnEvents]
  split
  case isFalse => exact .nil _
  rw [processorCycle]
  split
  case isTrue => exact course_transferCycle socket machine.bus
  case isFalse =>
    have follows := Bus.follows_recorded socket machine.bus
    exact ((Bus.follows_simulation socket _).step (fun _ => trivial) follows machine.cpu).course

/-- The interrupt of the picture chip takes the controllers along the accesses of its sequence. -/
theorem course_deliverNmi :
    Course socket (machine.bus.controller socket) machine.nmiEvents
      (machine.deliverNmi.bus.controller socket) := by
  by_cases pending : machine.bus.ppu.nmiPending = true
  · have taken := Bus.follows_recorded socket { machine.bus with
      ppu := { machine.bus.ppu with nmiPending := false } }
    rw [deliverNmi_of_pending pending, nmiEvents, if_pos pending]
    exact ((Bus.follows_simulation socket _).nmi (fun _ => trivial) taken machine.cpu).course
  · rw [deliverNmi_of_quiet pending, nmiEvents, if_neg pending]
    exact .nil _

/-- So does the interrupt of the cartridge. -/
theorem course_deliverIrq :
    Course socket (machine.bus.controller socket) machine.irqEvents
      (machine.deliverIrq.bus.controller socket) := by
  rcases found : machine.bus.slot with _ | cartridge
  · rw [deliverIrq_of_empty found, irqEvents, found]
    exact .nil _
  by_cases pending : cartridge.irqPending = true
  · have told := Bus.follows_recorded socket { machine.bus with
      slot := some cartridge.acknowledge }
    simp only [deliverIrq_of_pending found pending, irqEvents, found]
    rw [if_pos pending]
    exact ((Bus.follows_simulation socket _).irq (fun _ => trivial) told machine.cpu).course
  · simp only [deliverIrq_of_quiet found pending, irqEvents, found]
    rw [if_neg pending]
    exact .nil _

/-- A dot does not touch the controllers. -/
theorem controller_clockPicture :
    machine.clockPicture.2.bus.controller socket = machine.bus.controller socket := by
  rw [clockPicture_eq]
  generalize machine.bus.ppu.clock machine.bus.slot = clocked
  revert socket
  exact Fin.forall_fin_two.2 ⟨rfl, rfl⟩

/-- Nor does the count of ticks. -/
theorem controller_countTick :
    machine.countTick.bus.controller socket = machine.bus.controller socket := by
  revert socket
  exact Fin.forall_fin_two.2 ⟨rfl, rfl⟩

/-- A tick takes the controllers along the accesses of its turn and of its interrupts. -/
theorem course_tick :
    Course socket (machine.bus.controller socket) machine.tickEvents
      (machine.tick.2.bus.controller socket) := by
  have turn := machine.clockPicture.2.course_turn socket
  have nmi := machine.clockPicture.2.turn.course_deliverNmi socket
  have irq := machine.clockPicture.2.turn.deliverNmi.course_deliverIrq socket
  rw [controller_clockPicture] at turn
  rw [tick_machine, controller_countTick]
  exact (turn.append nmi).append irq

/-- A reset takes the controllers along the reads of its vector. -/
theorem course_reset :
    Course socket (machine.bus.controller socket) machine.resetEvents
      (machine.reset.bus.controller socket) := by
  have follows := Bus.follows_recorded socket { machine.bus with
    slot := machine.bus.slot.map Cartridge.reset }
  exact ((Bus.follows_simulation socket _).reset follows machine.cpu).course

end Courses

/-- What can happen to a machine. -/
inductive Happening where
  /-- An action is done to it. -/
  | act (action : Action)
  /-- A cartridge is put into the slot. -/
  | insert (cartridge : Cartridge)
  /-- It is stored, and the other machine goes on from the bytes in its place. The other one may be
  what it has become since. -/
  | reload (other : Machine)

/-- Another machine with the stored state of this one. Where this one has no bytes or they can not
be read, it goes on itself; a sound machine with a cartridge has bytes, and they can be read
(`Machine.restore_reloaded`). -/
def reloaded (machine other : Machine) : Machine :=
  match machine.encode with
  | .error _ => machine
  | .ok bytes => (other.restore bytes).toOption.getD machine

/-- The machine after something has happened to it. -/
def undergo (machine : Machine) : Happening → Machine
  | .act action => (machine.act action).2
  | .insert cartridge => machine.insert cartridge
  | .reload other => machine.reloaded other

/-- The events at the bus while something happens. -/
def eventsOf (machine : Machine) : Happening → List PortEvent
  | .act .tick => machine.tickEvents
  | .act .reset => machine.resetEvents
  | .act (.setButtons socket buttons) => [.press socket buttons]
  | .act (.read address) => [.read address (machine.bus.read address).1]
  | .act (.write address value) => [.write address value]
  | .insert cartridge => resetEvents ⟨machine.cpu, machine.bus.insert cartridge⟩
  | .reload _ => []

/-- The machine after all that happens, in order. -/
def afterAll (machine : Machine) : List Happening → Machine
  | [] => machine
  | happening :: happenings => (machine.undergo happening).afterAll happenings

/-- The events at the bus in the course of all that happens, in order. -/
def events (machine : Machine) : List Happening → List PortEvent
  | [] => []
  | happening :: happenings =>
    machine.eventsOf happening ++ (machine.undergo happening).events happenings

variable (socket : Fin 2)

open SaveState SaveState.Outcome in
/-- A restored machine has the controllers of the stored one. -/
theorem controller_restore {machine other restored : Machine} {bytes : List UInt8}
    (stored : machine.encode = .ok bytes) (read : other.restore bytes = .ok restored) :
    restored.bus.controller socket = machine.bus.controller socket := by
  rcases inserted : machine.bus.slot with _ | cartridge
  · rw [encode, inserted] at stored
    cases stored
  rw [encode_of_cartridge inserted] at stored
  obtain rfl := Except.ok.inj stored
  have bus := Layout.decode_encode (Bus.layout_lawfulAt machine.bus) other.bus
    (Cpu.layout.encode machine.cpu ++ (Ppu.layout.encode machine.bus.ppu ++ cartridge.encode))
  rw [Bus.layout_copy] at bus
  -- the bus is read first, and what is read behind it leaves the controllers alone
  have given : Gives (fun restored : Machine =>
      restored.bus.controller socket = machine.bus.controller socket)
      (other.decode (Bus.layout.encode machine.bus ++ Cpu.layout.encode machine.cpu
        ++ Ppu.layout.encode machine.bus.ppu ++ cartridge.encode)) := by
    simp only [decode, List.append_assoc, bus, andThen_ok]
    refine Gives.andThen _ fun cpu rest => Gives.andThen _ fun ppu rest => ?_
    refine Gives.map (fun _ _ => trivial) fun slot (_ : True) => ?_
    revert socket
    exact Fin.forall_fin_two.2 ⟨rfl, rfl⟩
  exact given restored read

/-- A sound machine with a cartridge is stored, and the other machine is restored from its bytes. -/
theorem restore_reloaded {machine : Machine} (sound : machine.bus.Sound) {cartridge : Cartridge}
    (inserted : machine.bus.slot = some cartridge) (other : Machine) :
    ∃ bytes, machine.encode = .ok bytes ∧
      other.restore bytes = .ok (machine.reloaded other) := by
  have stored := encode_of_cartridge inserted
  have restored := restore_encode sound inserted stored other
  refine ⟨_, stored, ?_⟩
  simp only [reloaded, stored, restored, Except.toOption, Option.getD_some]

/-- Storing a machine and going on from its bytes leaves the controllers alone. -/
theorem controller_reloaded (machine other : Machine) :
    (machine.reloaded other).bus.controller socket = machine.bus.controller socket := by
  rw [reloaded]
  split
  case h_1 => rfl
  case h_2 bytes stored =>
    rcases read : other.restore bytes with fault | restored
    · rfl
    · exact controller_restore socket stored read

/-- Whatever happens to a machine makes a course. -/
theorem course_eventsOf (machine : Machine) (happening : Happening) :
    Course socket (machine.bus.controller socket) (machine.eventsOf happening)
      ((machine.undergo happening).bus.controller socket) := by
  cases happening with
  | act action =>
    cases action with
    | tick => exact machine.course_tick socket
    | reset => exact machine.course_reset socket
    | setButtons other buttons => exact machine.bus.course_setButtons socket other buttons
    | read address => exact machine.bus.course_read socket address
    | write address value => exact machine.bus.course_write socket address value
  | insert cartridge => exact course_reset socket ⟨machine.cpu, machine.bus.insert cartridge⟩
  | reload other =>
    rw [undergo, controller_reloaded]
    exact .nil _

/-- So does all that happens, in order. -/
theorem course_events (machine : Machine) (happenings : List Happening) :
    Course socket (machine.bus.controller socket) (machine.events happenings)
      ((machine.afterAll happenings).bus.controller socket) := by
  induction happenings generalizing machine with
  | nil => exact .nil _
  | cons happening happenings ih =>
    exact (machine.course_eventsOf socket happening).append (ih (machine.undergo happening))

/-- Behind a write of any value to the port of a socket, the port answers its reads with the bits of
the buttons that were held down at the write, the most significant one first, and with zeros from
the ninth read on, until it is written to again. The buttons are those that were pressed last before
the write. What else happens does not matter: other buttons are pressed, the other port and all
other addresses are accessed, the machine is ticked, reset or given another cartridge, or it is
stored and goes on from its bytes. -/
theorem portAnswers_events (machine : Machine) (happenings : List Happening) (socket : Fin 2)
    {before later : List PortEvent} {value : UInt8}
    (written : machine.events happenings
      = before ++ .write (portAddress socket) value :: later) :
    let held := heldDown socket (machine.bus.controller socket).buttons before
    let answers := portAnswers socket (later.takeWhile (!·.latches socket))
    answers = (List.range answers.length).map (shiftedOut held) := by
  have course := machine.course_events socket happenings
  rw [written] at course
  exact course.portAnswers_eq

/-- Ten reads of the port of the first socket, behind a write to it: other buttons are held down
by then, the second port is used, the mapper is told something, and the machine is stored and goes
on in place of one without a cartridge, which can read its bytes. -/
theorem portAnswers_events_reloaded :
    let machine : Machine := ⟨.powerOn, Bus.powerOn.insert .bareMmc3⟩
    let first := [Happening.act (.setButtons 0 0xB1), .act (.write 0x4016 1)]
    let reads := List.replicate 5 (Happening.act (.read 0x4016))
    let second := [.act (.setButtons 0 0x4E), .act (.setButtons 1 0xFF), .act (.write 0x4017 1)]
      ++ reads
    let rest := second ++ [.reload powerOn, .act (.read 0x4017), .act (.write 0x8000 7)] ++ reads
    let saved := machine.afterAll (first ++ second)
    let later := (machine.afterAll first).events rest
    machine.events (first ++ rest)
        = [.press 0 0xB1] ++ .write (portAddress 0) 1 :: later ∧
      (∃ bytes, saved.encode = .ok bytes ∧
        powerOn.restore bytes = .ok (saved.reloaded powerOn)) ∧
      portAnswers 0 (later.takeWhile (!·.latches 0)) = [1, 0, 1, 1, 0, 0, 0, 1, 0, 0] := by
  intro machine first reads second rest saved later
  have written : machine.events (first ++ rest)
      = [.press 0 0xB1] ++ .write (portAddress 0) 1 :: later := rfl
  -- up to the reload there are actions only, which keep the machine sound
  let actions : List Action := [.setButtons 0 0xB1, .write 0x4016 1, .setButtons 0 0x4E,
    .setButtons 1 0xFF, .write 0x4017 1] ++ List.replicate 5 (.read 0x4016)
  have acted : saved = machine.after actions := rfl
  have start : machine.bus.Sound := Bus.sound_powerOn.insert Cartridge.accepted_bareMmc3.storable
  have inserted : (machine.after actions).bus.slot = some .bareMmc3 := rfl
  have reloads := restore_reloaded (sound_after start actions) inserted powerOn
  rw [← acted] at reloads
  refine ⟨written, reloads, ?_⟩
  have answers := portAnswers_events machine (first ++ rest) 0 written
  have ten : (portAnswers 0 (later.takeWhile (!·.latches 0))).length = 10 := rfl
  dsimp only at answers
  rw [ten] at answers
  exact answers.trans (by decide)

end Machine

end Nes
