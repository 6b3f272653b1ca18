import Nes.Proofs.Machine.Bounds
import Nes.Proofs.Machine.SlotUse
import Nes.Proofs.Ppu.IndexedDot

/-!
# Indexes on a machine out of any state

Everything that can be done to a machine, with the accesses by index of its parts. A bus on which an
index has missed is gone, and the processor over such buses goes through the same states as over the
bus itself (`Bus.guards_simulation`).

A state may say anything, and a machine that it is read into has what it says. All that the indexes
need of such a machine is that board 4 names one of its registers. The reader sees to that, every
action on a cartridge keeps it, and so no access misses, in the actions that follow a restored state
and in any number of them (`Machine.indexedPlay_of_restore`).
-/
namespace Nes

namespace Bus

/-- Read an address that the cartridge does not claim. -/
def indexedReadUnclaimed (bus : Bus) (address : UInt16) : Option (UInt8 × Bus) :=
  if address < 0x2000 then do
    let byte ← bus.ram.get? (address &&& 0x07FF).toNat
    return (byte, bus)
  else if address < 0x4000 then do
    let (value, ppu) ← bus.ppu.indexedReadRegister bus.slot address
    return (value, { bus with ppu })
  else some (bus.readUnclaimed address)

/-- A processor read. -/
def indexedRead (bus : Bus) (address : UInt16) : Option (UInt8 × Bus) :=
  match bus.slot with
  | none => bus.indexedReadUnclaimed address
  | some cartridge => do
    match ← cartridge.indexedRead address with
    | some value => return (value, bus)
    | none => bus.indexedReadUnclaimed address

/-- Write an address that the cartridge does not claim. -/
def indexedWriteUnclaimed (bus : Bus) (address : UInt16) (value : UInt8) : Option Bus :=
  if address < 0x2000 then do
    let ram ← bus.ram.set? (address &&& 0x07FF).toNat value
    return { bus with ram }
  else if address < 0x4000 then do
    let (ppu, slot) ← bus.ppu.indexedWriteRegister bus.slot address value
    return { bus with ppu, slot }
  else some (bus.writeUnclaimed address value)

/-- A processor write. -/
def indexedWrite (bus : Bus) (address : UInt16) (value : UInt8) : Option Bus :=
  match bus.slot with
  | none => bus.indexedWriteUnclaimed address value
  | some cartridge => do
    let (claimed, cartridge) ← cartridge.indexedWrite address value
    let bus := { bus with slot := some cartridge }
    if claimed then return bus else bus.indexedWriteUnclaimed address value

/-- The cartridge, if there is one, has registers that a state can hold. -/
def InRange (bus : Bus) : Prop :=
  Cartridge.InSlot (fun cartridge => cartridge.board.Storable) bus.slot

section Accesses

variable (bus : Bus) (address : UInt16) (value : UInt8)

/-- Work memory is seen four times. -/
theorem ramCell_eq : (address &&& 0x07FF).toNat = address.toNat % 0x800 :=
  toNat_and_low address (show (0x07FF : UInt16).toNat = 2 ^ 11 - 1 from rfl)

/-- A read that the cartridge left to the bus misses no cell. -/
theorem indexedReadUnclaimed_eq :
    bus.indexedReadUnclaimed address = some (bus.readUnclaimed address) := by
  rw [indexedReadUnclaimed, ramCell_eq, bus.ram.get?_mod, Ppu.indexedReadRegister_eq,
    readUnclaimed]
  split
  · rfl
  split <;> rfl

/-- A write that the cartridge left to the bus misses no cell. -/
theorem indexedWriteUnclaimed_eq :
    bus.indexedWriteUnclaimed address value = some (bus.writeUnclaimed address value) := by
  rw [indexedWriteUnclaimed, ramCell_eq, bus.ram.set?_mod, Ppu.indexedWriteRegister_eq,
    writeUnclaimed]
  split
  · rfl
  split <;> rfl

/-- A read stays inside of all arrays, whatever the state. -/
theorem indexedRead_eq : bus.indexedRead address = some (bus.read address) := by
  rw [indexedRead, read]
  rcases inserted : bus.slot with _ | cartridge
  · exact bus.indexedReadUnclaimed_eq address
  · dsimp only
    rw [Cartridge.indexedRead_eq, Option.bind_eq_bind, Option.bind_some, Option.bind_some]
    rcases cartridge.read address with _ | value
    · exact bus.indexedReadUnclaimed_eq address
    · rfl

/-- So does a write, where a write to the registers of the board does. -/
theorem indexedWrite_eq {bus : Bus} (inRange : bus.InRange) :
    bus.indexedWrite address value = some (bus.write address value) := by
  rw [indexedWrite, write]
  rcases inserted : bus.slot with _ | cartridge
  · exact bus.indexedWriteUnclaimed_eq address value
  · dsimp only
    rw [Cartridge.indexedWrite_eq _ _ (inRange cartridge inserted), Option.bind_eq_bind,
      Option.bind_some]
    exact ite_eq_some rfl (indexedWriteUnclaimed_eq _ address value)

end Accesses

/-- A bus that is there only as long as every index has been inside of its array. -/
structure Guarded where
  /-- The bus. -/
  bus? : Option Bus

instance : Cpu.AddressSpace Guarded where
  read guarded address :=
    match guarded.bus?.bind (·.indexedRead address) with
    | some (value, bus) => (value, ⟨some bus⟩)
    | none => (0, ⟨none⟩)
  write guarded address value := ⟨guarded.bus?.bind (·.indexedWrite address value)⟩

/-- A bus with registers in range, and the same bus without a miss. -/
def Guards (bus : Bus) (guarded : Guarded) : Prop := guarded = ⟨some bus⟩ ∧ bus.InRange

section Kept

variable {bus : Bus} (inRange : bus.InRange) (address : UInt16)

include inRange

/-- A read leaves the registers of the cartridge in range. -/
theorem inRange_read : (bus.read address).2.InRange :=
  (slotUse_read (.refl bus.slot) address).inSlot Cartridge.kept_boardStorable inRange

/-- A write leaves the registers of the cartridge in range. -/
theorem inRange_write (value : UInt8) : (bus.write address value).InRange :=
  (slotUse_write (.refl bus.slot) address value).inSlot Cartridge.kept_boardStorable inRange

end Kept

/-- The processor notices no difference between a bus and one on which an index may miss. -/
theorem guards_simulation : Cpu.Simulation Guards fun _ => True where
  read := by
    rintro bus _ address ⟨rfl, inRange⟩
    refine ⟨(bus.read address).1, (bus.read address).2, ⟨some (bus.read address).2⟩, rfl, ?_, rfl,
      inRange_read inRange address⟩
    simp only [Cpu.AddressSpace.read, Option.bind_some, indexedRead_eq]
  write := by
    rintro bus _ address value - ⟨rfl, inRange⟩
    exact ⟨congrArg Guarded.mk (indexedWrite_eq address value inRange),
      inRange_write inRange address value⟩

end Bus

namespace Machine

/-- The machine after a work of its processor, if no index has missed in it. -/
def guarded? (work : Bus.Guarded → Cpu × Bus.Guarded) (bus : Bus) : Option Machine := do
  let (cpu, guarded) := work ⟨some bus⟩
  let bus ← guarded.bus?
  return ⟨cpu, bus⟩

/-- Outcomes that agree show that no index has missed. -/
theorem guarded?_eq {work : Bus.Guarded → Cpu × Bus.Guarded} {bus : Bus} {outcome : Cpu × Bus}
    (agree : Cpu.Agree Bus.Guards outcome (work ⟨some bus⟩)) :
    guarded? work bus = some ⟨outcome.1, outcome.2⟩ := by
  obtain ⟨cpu, after, guarded, rfl, worked, rfl, -⟩ := agree
  rw [guarded?, worked]
  rfl

/-- Clock one dot of the picture. -/
def indexedClockPicture (machine : Machine) : Option (Option Pixel × Machine) := do
  let clocked ← machine.bus.ppu.indexedClock machine.bus.slot
  return (clocked.pixel,
    ⟨machine.cpu, { machine.bus with ppu := clocked.ppu, slot := clocked.slot }⟩)

/-- One cycle of a transfer into sprite memory. -/
def indexedTransferCycle (bus : Bus) : Option Bus :=
  let (request, transfer) := bus.transfer.advance (bus.ticks % 2 == 1)
  let bus := { bus with transfer }
  match request with
  | .wait => some bus
  | .read address => do
    let (value, bus) ← bus.indexedRead address
    return { bus with transfer := bus.transfer.hand value }
  | .store index value => do
    let ppu ← bus.ppu.indexedStoreOam index value
    return { bus with ppu }

/-- The work of a tick that belongs to the processor. -/
def indexedProcessorCycle (machine : Machine) : Option Machine :=
  if machine.bus.transferring then do
    let bus ← indexedTransferCycle machine.bus
    return ⟨machine.cpu, bus⟩
  else guarded? machine.cpu.step machine.bus

/-- Deliver the interrupt of the picture chip. -/
def indexedDeliverNmi (machine : Machine) : Option Machine :=
  if machine.bus.ppu.nmiPending then
    guarded? machine.cpu.nmi
      { machine.bus with ppu := { machine.bus.ppu with nmiPending := false } }
  else some machine

/-- Deliver the interrupt of the cartridge. -/
def indexedDeliverIrq (machine : Machine) : Option Machine :=
  match machine.bus.slot with
  | none => some machine
  | some cartridge =>
    if cartridge.irqPending then
      guarded? machine.cpu.irq { machine.bus with slot := some cartridge.acknowledge }
    else some machine

/-- One tick, and the pixel that it makes. -/
def indexedTick (machine : Machine) : Option (Option Pixel × Machine) := do
  let (pixel, machine) ← machine.indexedClockPicture
  let machine ← (if machine.isProcessorTick then machine.indexedProcessorCycle else some machine)
  let machine ← machine.indexedDeliverNmi
  let machine ← machine.indexedDeliverIrq
  return (pixel, machine.countTick)

/-- A dot misses no cell, whatever state it starts from. -/
theorem indexedClockPicture_eq (machine : Machine) :
    machine.indexedClockPicture = some machine.clockPicture := by
  rw [indexedClockPicture, Ppu.indexedClock_eq, clockPicture_eq]
  rfl

/-- A cycle of a transfer misses no cell. -/
theorem indexedTransferCycle_eq (bus : Bus) :
    indexedTransferCycle bus = some (transferCycle bus) := by
  rw [indexedTransferCycle, transferCycle]
  generalize bus.transfer.advance (bus.ticks % 2 == 1) = asked
  obtain ⟨_ | address | ⟨index, value⟩, transfer⟩ := asked
  · rfl
  · dsimp only
    rw [Bus.indexedRead_eq]
    rfl
  · dsimp only
    rw [Ppu.indexedStoreOam_eq]
    rfl

section Ticks

variable {machine : Machine} (inRange : machine.bus.InRange)

include inRange

/-- A dot leaves the registers of the cartridge in range. -/
theorem inRange_clockPicture : machine.clockPicture.2.bus.InRange := by
  rw [clockPicture_eq]
  exact Cartridge.kept_boardStorable.clock inRange machine.bus.ppu

/-- The turn of the processor leaves the registers of the cartridge in range. -/
theorem inRange_turn : machine.turn.bus.InRange :=
  (slotUse_turn (.refl machine.bus.slot)).inSlot Cartridge.kept_boardStorable inRange

/-- The interrupt of the picture chip leaves the registers of the cartridge in range. -/
theorem inRange_deliverNmi : machine.deliverNmi.bus.InRange :=
  ((Bus.slotUse_interrupts machine.bus.slot).deliverNmi (.refl machine.bus.slot)).inSlot
    Cartridge.kept_boardStorable inRange

/-- The work of the processor in a tick misses no cell. -/
theorem indexedProcessorCycle_eq :
    machine.indexedProcessorCycle = some machine.processorCycle := by
  have stepped := guarded?_eq (Bus.guards_simulation.step (fun _ => trivial) ⟨rfl, inRange⟩
    machine.cpu)
  rw [indexedProcessorCycle, processorCycle, indexedTransferCycle_eq, stepped]
  exact ite_eq_some rfl rfl

/-- The interrupt of the picture chip is delivered without a miss. -/
theorem indexedDeliverNmi_eq : machine.indexedDeliverNmi = some machine.deliverNmi := by
  have entered := guarded?_eq (Bus.guards_simulation.nmi (fun _ => trivial)
    (show Bus.Guards { machine.bus with ppu := { machine.bus.ppu with nmiPending := false } } _ from
      ⟨rfl, inRange⟩) machine.cpu)
  rw [indexedDeliverNmi, deliverNmi, entered]
  exact ite_eq_some rfl rfl

/-- The interrupt of the cartridge is delivered without a miss. -/
theorem indexedDeliverIrq_eq : machine.indexedDeliverIrq = some machine.deliverIrq := by
  rw [indexedDeliverIrq, deliverIrq]
  rcases inserted : machine.bus.slot with _ | cartridge
  · rfl
  · have acknowledged : Bus.InRange { machine.bus with slot := some cartridge.acknowledge } := by
      rintro _ ⟨⟩
      exact Board.storable_acknowledge (inRange cartridge inserted)
    have entered := guarded?_eq (Bus.guards_simulation.irq (fun _ => trivial)
      ⟨rfl, acknowledged⟩ machine.cpu)
    dsimp only
    rw [entered]
    exact ite_eq_some rfl rfl

/-- A tick stays inside of all arrays. -/
theorem indexedTick_eq : machine.indexedTick = some machine.tick := by
  have clocked := inRange_clockPicture inRange
  have turned := inRange_turn clocked
  have turn : (if machine.clockPicture.2.isProcessorTick then
      machine.clockPicture.2.indexedProcessorCycle else some machine.clockPicture.2)
        = some machine.clockPicture.2.turn := ite_eq_some (indexedProcessorCycle_eq clocked) rfl
  rw [indexedTick, indexedClockPicture_eq, Option.bind_eq_bind, Option.bind_some]
  dsimp only
  rw [turn, Option.bind_eq_bind, Option.bind_some, indexedDeliverNmi_eq turned, Option.bind_some,
    indexedDeliverIrq_eq (inRange_deliverNmi turned)]
  rfl

end Ticks

/-- Reset the cartridge, then the processor through the reset vector, then the rest. -/
def indexedReset (machine : Machine) : Option Machine := do
  let bus := { machine.bus with slot := machine.bus.slot.map Cartridge.reset }
  let ⟨cpu, bus⟩ ← guarded? machine.cpu.reset bus
  return ⟨cpu, { bus with ppu := bus.ppu.reset, ticks := 0, transfer := .powerOn }⟩

/-- What an action shows, and the machine after it. -/
def indexedAct (machine : Machine) : Action → Option (Shown × Machine)
  | .tick => do
    let (pixel, machine) ← machine.indexedTick
    return (⟨none, pixel⟩, machine)
  | .reset => do
    let machine ← machine.indexedReset
    return (.nothing, machine)
  | .setButtons socket buttons => some (machine.act (.setButtons socket buttons))
  | .read address => do
    let (value, bus) ← machine.bus.indexedRead address
    return (⟨some value, none⟩, ⟨machine.cpu, bus⟩)
  | .write address value => do
    let bus ← machine.bus.indexedWrite address value
    return (.nothing, ⟨machine.cpu, bus⟩)

/-- What actions in order show, and the machine after them. -/
def indexedPlay (machine : Machine) : List Action → Option (List Shown × Machine)
  | [] => some ([], machine)
  | action :: actions => do
    let (shown, machine) ← machine.indexedAct action
    let (later, machine) ← machine.indexedPlay actions
    return (shown :: later, machine)

section Actions

variable {machine : Machine} (inRange : machine.bus.InRange)

include inRange

/-- A reset misses no cell. -/
theorem indexedReset_eq : machine.indexedReset = some machine.reset := by
  have slot := Cartridge.kept_boardStorable.map inRange .reset
  have started := guarded?_eq (Bus.guards_simulation.reset
    (show Bus.Guards { machine.bus with slot := machine.bus.slot.map Cartridge.reset } _ from
      ⟨rfl, slot⟩) machine.cpu)
  rw [indexedReset]
  dsimp only
  rw [started]
  rfl

/-- Whatever is done to a machine stays inside of all arrays. -/
theorem indexedAct_eq (action : Action) :
    machine.indexedAct action = some (machine.act action) := by
  cases action with
  | tick =>
    rw [indexedAct, indexedTick_eq inRange]
    rfl
  | reset =>
    rw [indexedAct, indexedReset_eq inRange]
    rfl
  | setButtons socket buttons => rfl
  | read address =>
    rw [indexedAct, Bus.indexedRead_eq]
    rfl
  | write address value =>
    rw [indexedAct, Bus.indexedWrite_eq _ _ inRange]
    rfl

/-- And leaves the machine in range. -/
theorem inRange_act (action : Action) : (machine.act action).2.bus.InRange :=
  (machine.slotUse_act action).inSlot Cartridge.kept_boardStorable inRange

/-- So do any actions in order. -/
theorem indexedPlay_eq (actions : List Action) :
    machine.indexedPlay actions = some (machine.shown actions, machine.after actions) := by
  induction actions generalizing machine with
  | nil => rfl
  | cons action actions ih =>
    rw [indexedPlay, indexedAct_eq inRange, Option.bind_eq_bind, Option.bind_some]
    dsimp only
    rw [ih (inRange_act inRange action)]
    rfl

end Actions

open SaveState SaveState.Outcome in
/-- A machine out of any bytes is in range. -/
theorem inRange_of_restore {machine restored : Machine} {bytes : List UInt8}
    (loaded : machine.restore bytes = .ok restored) : restored.bus.InRange := by
  have given : Gives (fun read : Machine => read.bus.InRange) (machine.decode bytes) := by
    refine Gives.andThen _ fun bus rest => ?_
    refine Gives.andThen _ fun cpu rest => ?_
    refine Gives.andThen _ fun ppu rest => ?_
    refine (Cartridge.storable_of_decode _ rest).map ?_
    rintro cartridge storable _ ⟨⟩
    exact storable
  exact given restored loaded

/-- Whatever bytes are restored over whatever machine, all that follows stays inside of all arrays,
and its pixels inside of the picture. -/
theorem indexedPlay_of_restore {machine restored : Machine} {bytes : List UInt8}
    (loaded : machine.restore bytes = .ok restored) (actions : List Action) :
    restored.indexedPlay actions = some (restored.shown actions, restored.after actions) ∧
      ∀ pixel ∈ restored.pixelsDrawn actions, pixel.x < 256 ∧ pixel.y < 240 :=
  ⟨indexedPlay_eq (inRange_of_restore loaded) actions, fun _ drawn => inside_of_pixelsDrawn drawn⟩

/-- A cartridge that no image makes: it has no memory, and its windows lead past any. -/
def forgedCartridge : Cartridge :=
  { Cartridge.blank with
    board := .mmc3 { Mmc3.powerOn ⟨0xFFFF, 0xFFFF⟩ with
      target := 7
      characterWindows := Vector.replicate 8 0xFFFFFFFF
      programWindows := Vector.replicate 4 0xFFFFFFFF } }

/-- A machine that no use of a console leads to: 255 sprites are selected for a line that the dots
have run past. -/
def forged : Machine :=
  ⟨.powerOn, { Bus.powerOn with
    ppu := { Ppu.powerOn with
      mask := ⟨0xFF⟩
      scroll := ⟨0xFFFF⟩
      fineX := 0xFF
      line := 239
      dot := 32767
      sprites := { Ppu.Sprites.powerOn with count := 255 } }
    slot := some forgedCartridge }⟩

/-- The forged machine can be stored, although no use leads to it. -/
theorem sound_forged : forged.bus.Sound where
  slot := by
    rintro _ ⟨⟩
    exact ⟨rfl, by decide, by decide, by decide⟩
  status := show (0 : UInt8) < 0x20 by decide
  ready _ := rfl

/-- The bytes of the forged machine are restored, sprites and all, and do no harm. -/
theorem indexedPlay_of_restore_forged :
    ∃ bytes restored, forged.encode = .ok bytes ∧ powerOn.restore bytes = .ok restored ∧
      restored.bus.ppu.sprites.count = 255 ∧
      restored.indexedPlay [.tick, .read 0xFFFF, .write 0x8001 0xFF]
        = some (restored.shown [.tick, .read 0xFFFF, .write 0x8001 0xFF],
          restored.after [.tick, .read 0xFFFF, .write 0x8001 0xFF]) ∧
      ∀ pixel ∈ restored.pixelsDrawn [.tick, .read 0xFFFF, .write 0x8001 0xFF],
        pixel.x < 256 ∧ pixel.y < 240 := by
  have stored := encode_of_cartridge (show forged.bus.slot = some forgedCartridge from rfl)
  have loaded := restore_encode sound_forged rfl stored powerOn
  exact ⟨_, _, stored, loaded, rfl, indexedPlay_of_restore loaded _⟩

end Machine

end Nes
