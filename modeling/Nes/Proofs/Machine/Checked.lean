import Nes.Proofs.Cpu.Checked
import Nes.Proofs.Machine.Bounds
import Nes.Proofs.Ppu.CheckedDot

/-!
# The arithmetic of a tick

Accesses to the bus and the steps of a tick, with the checked arithmetic of the parts that they
involve. A bus that may have failed is an address space of its own: once a check fails, no bus is
left. The processor over that space goes through the same states as over the bus, as long as the bus
is within its bounds (`Bus.checks_simulation`). So on a machine within its bounds every check of a
tick succeeds (`Machine.checkedTick_eq`), and so does every check of an access.
-/
namespace Nes

namespace Bus

/-- Read an address that the cartridge does not claim. -/
def checkedReadUnclaimed (bus : Bus) (address : UInt16) : Option (UInt8 × Bus) :=
  if address < 0x2000 then some (bus.ram.read address.toNat, bus)
  else if address < 0x4000 then do
    let (value, ppu) ← bus.ppu.checkedReadRegister bus.slot address
    return (value, { bus with ppu })
  else some (bus.readUnclaimed address)

/-- A processor read. -/
def checkedRead (bus : Bus) (address : UInt16) : Option (UInt8 × Bus) :=
  match bus.slot with
  | none => bus.checkedReadUnclaimed address
  | some cartridge => do
    match ← cartridge.checkedRead address with
    | some value => return (value, bus)
    | none => bus.checkedReadUnclaimed address

/-- A processor write. What the cartridge does not claim is written without arithmetic. -/
def checkedWrite (bus : Bus) (address : UInt16) (value : UInt8) : Option Bus :=
  match bus.slot with
  | none => some (bus.writeUnclaimed address value)
  | some cartridge => do
    let (claimed, cartridge) ← cartridge.checkedWrite address value
    let bus := { bus with slot := some cartridge }
    return if claimed then bus else bus.writeUnclaimed address value

section Accesses

variable {bus : Bus} (slotBounded : Cartridge.SlotBounded bus.slot) (address : UInt16)

include slotBounded

/-- A read that the cartridge left to the bus does its arithmetic exactly. -/
theorem checkedReadUnclaimed_eq :
    bus.checkedReadUnclaimed address = some (bus.readUnclaimed address) := by
  rw [checkedReadUnclaimed, readUnclaimed, Ppu.checkedReadRegister_eq slotBounded]
  split
  · rfl
  split <;> rfl

/-- Over a slot within its bounds no read leaves its types. -/
theorem checkedRead_eq : bus.checkedRead address = some (bus.read address) := by
  have unclaimed := checkedReadUnclaimed_eq slotBounded address
  rw [checkedRead, read]
  rcases inserted : bus.slot with _ | cartridge
  · exact unclaimed
  · have bounded := slotBounded cartridge inserted
    dsimp only
    rw [Cartridge.checkedRead_eq bounded, Option.bind_eq_bind, Option.bind_some, Option.bind_some,
      unclaimed]
    rcases cartridge.read address with _ | value <;> rfl

/-- Nor does a write. -/
theorem checkedWrite_eq (value : UInt8) :
    bus.checkedWrite address value = some (bus.write address value) := by
  rw [checkedWrite, write]
  rcases inserted : bus.slot with _ | cartridge
  · rfl
  · have bounded := slotBounded cartridge inserted
    dsimp only
    rw [Cartridge.checkedWrite_eq bounded]
    rfl

end Accesses

/-- Accesses to a bus that is there only as long as no check has failed. -/
instance : Cpu.AddressSpace (Option Bus) where
  read bus? address :=
    match bus?.bind (·.checkedRead address) with
    | some (value, bus) => (value, some bus)
    | none => (0, none)
  write bus? address value := bus?.bind (·.checkedWrite address value)

/-- A bus within its bounds, and the same bus without a failed check. -/
def Checks (bus : Bus) (bus? : Option Bus) : Prop := bus? = some bus ∧ bus.Bounded

/-- The processor notices no difference between a bus within its bounds and one with checks. -/
theorem checks_simulation : Cpu.Simulation Checks fun _ => True where
  read := by
    rintro bus _ address ⟨rfl, bounded⟩
    refine ⟨(bus.read address).1, (bus.read address).2, some (bus.read address).2, rfl, ?_, rfl,
      bounded.read address⟩
    simp only [Cpu.AddressSpace.read, Option.bind_some, checkedRead_eq bounded.slot]
  write := by
    rintro bus _ address value - ⟨rfl, bounded⟩
    exact ⟨checkedWrite_eq bounded.slot address value, bounded.write address value⟩

/-- Outcomes that agree show that no check has failed. -/
theorem passed_of_agree {α : Type} {outcome : α × Bus} {checked : α × Option Bus}
    (agree : Cpu.Agree Checks outcome checked) : checked = (outcome.1, some outcome.2) := by
  obtain ⟨value, bus, bus?, rfl, rfl, rfl, -⟩ := agree
  rfl

end Bus

namespace Machine

/-- Clock one dot of the picture. -/
def checkedClockPicture (machine : Machine) : Option (Option Pixel × Machine) := do
  let clocked ← machine.bus.ppu.checkedClock machine.bus.slot
  return (clocked.pixel,
    ⟨machine.cpu, { machine.bus with ppu := clocked.ppu, slot := clocked.slot }⟩)

/-- One cycle of a transfer into sprite memory. The cursor goes round. -/
def checkedTransferCycle (bus : Bus) : Option Bus :=
  let (request, transfer) := bus.transfer.advance (bus.ticks % 2 == 1)
  let bus := { bus with transfer }
  match request with
  | .wait => some bus
  | .read address => do
    let (value, bus) ← bus.checkedRead address
    return { bus with transfer := bus.transfer.hand value }
  | .store index value => some { bus with ppu := bus.ppu.storeOam index value }

/-- The work of a tick that belongs to the processor. -/
def checkedProcessorCycle (machine : Machine) : Option Machine :=
  if machine.bus.transferring then do
    let bus ← checkedTransferCycle machine.bus
    return ⟨machine.cpu, bus⟩
  else do
    let (cpu, bus?) ← machine.cpu.checkedStep (some machine.bus)
    let bus ← bus?
    return ⟨cpu, bus⟩

/-- Deliver the interrupt of the picture chip. -/
def checkedDeliverNmi (machine : Machine) : Option Machine :=
  if machine.bus.ppu.nmiPending then do
    let bus := { machine.bus with ppu := { machine.bus.ppu with nmiPending := false } }
    let (cpu, bus?) := machine.cpu.nmi (some bus)
    let bus ← bus?
    return ⟨cpu, bus⟩
  else some machine

/-- Deliver the interrupt of the cartridge. -/
def checkedDeliverIrq (machine : Machine) : Option Machine :=
  match machine.bus.slot with
  | none => some machine
  | some cartridge =>
    if cartridge.irqPending then do
      let bus := { machine.bus with slot := some cartridge.acknowledge }
      let (cpu, bus?) := machine.cpu.irq (some bus)
      let bus ← bus?
      return ⟨cpu, bus⟩
    else some machine

/-- One tick, and the pixel that it makes. The count of ticks goes round. -/
def checkedTick (machine : Machine) : Option (Option Pixel × Machine) := do
  let (pixel, machine) ← machine.checkedClockPicture
  let machine ← (if machine.isProcessorTick then machine.checkedProcessorCycle else some machine)
  let machine ← machine.checkedDeliverNmi
  let machine ← machine.checkedDeliverIrq
  return (pixel, machine.countTick)

section Ticks

variable {machine : Machine} (bounded : Bounded machine)

include bounded

/-- A dot of a machine within its bounds is exact. -/
theorem checkedClockPicture_eq : machine.checkedClockPicture = some machine.clockPicture := by
  rw [checkedClockPicture, Ppu.checkedClock_eq bounded.bus.ppu bounded.bus.slot, clockPicture_eq]
  rfl

/-- A cycle of a transfer is exact. -/
theorem checkedTransferCycle_eq :
    checkedTransferCycle machine.bus = some (transferCycle machine.bus) := by
  rw [checkedTransferCycle, transferCycle, OamTransfer.advance]
  by_cases idle : machine.bus.transfer.idle = true
  · rw [if_pos idle]
  · rw [if_neg idle]
    by_cases odd : (machine.bus.ticks % 2 == 1) = true
    · rw [if_pos odd]
    · rw [if_neg odd]
      dsimp only
      rw [Bus.checkedRead_eq bounded.bus.slot]
      rfl

/-- The work of the processor in a tick is exact. -/
theorem checkedProcessorCycle_eq :
    machine.checkedProcessorCycle = some machine.processorCycle := by
  have stepped := Bus.passed_of_agree (Bus.checks_simulation.step (fun _ => trivial)
    ⟨rfl, bounded.bus⟩ machine.cpu)
  rw [checkedProcessorCycle, processorCycle, checkedTransferCycle_eq bounded, Cpu.checkedStep_eq,
    stepped]
  exact ite_eq_some rfl rfl

/-- The interrupt of the picture chip is delivered exactly. -/
theorem checkedDeliverNmi_eq : machine.checkedDeliverNmi = some machine.deliverNmi := by
  have entered := Bus.passed_of_agree (Bus.checks_simulation.nmi (fun _ => trivial)
    ⟨rfl, bounded.bus.taken⟩ machine.cpu)
  rw [checkedDeliverNmi, deliverNmi]
  dsimp only
  rw [entered]
  exact ite_eq_some rfl rfl

/-- The interrupt of the cartridge is delivered exactly. -/
theorem checkedDeliverIrq_eq : machine.checkedDeliverIrq = some machine.deliverIrq := by
  rw [checkedDeliverIrq, deliverIrq]
  rcases inserted : machine.bus.slot with _ | cartridge
  · rfl
  · have entered := Bus.passed_of_agree (Bus.checks_simulation.irq (fun _ => trivial)
      ⟨rfl, bounded.bus.acknowledged inserted⟩ machine.cpu)
    dsimp only
    rw [entered]
    exact ite_eq_some rfl rfl

/-- On a machine within its bounds no operation of a tick leaves its type. -/
theorem checkedTick_eq : machine.checkedTick = some machine.tick := by
  have clocked := bounded.clockPicture
  have turned := clocked.turn
  have turn : (if machine.clockPicture.2.isProcessorTick then
      machine.clockPicture.2.checkedProcessorCycle else some machine.clockPicture.2)
        = some machine.clockPicture.2.turn := ite_eq_some (checkedProcessorCycle_eq clocked) rfl
  rw [checkedTick, checkedClockPicture_eq bounded, Option.bind_eq_bind, Option.bind_some]
  dsimp only
  rw [turn, Option.bind_eq_bind, Option.bind_some, checkedDeliverNmi_eq turned, Option.bind_some,
    checkedDeliverIrq_eq turned.deliverNmi]
  rfl

end Ticks

end Machine

end Nes
