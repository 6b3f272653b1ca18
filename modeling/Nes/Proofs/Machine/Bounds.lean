import Nes.Proofs.Cartridge.Bounds
import Nes.Proofs.Cpu.Cycles
import Nes.Proofs.Machine.Use
import Nes.Proofs.Ppu.Bounds

/-!
# Bounds on machines

The bounds on the parts of a machine, put together: the picture chip and the cartridge are within
their bounds, a transfer engine that is not in use waits at its first byte, and the processor has no
more than eight cycles left (`Machine.Bounded`). The machine at power-on is within its bounds, and
whatever is done to a machine keeps it there (`Machine.Bounded.act`).
-/
namespace Nes

namespace Bus

/-- A bus within its bounds. -/
structure Bounded (bus : Bus) : Prop where
  /-- The picture chip is within its bounds. -/
  ppu : bus.ppu.Bounded
  /-- So is the cartridge. -/
  slot : Cartridge.SlotBounded bus.slot
  /-- Between transfers the engine waits at the first byte. -/
  ready : bus.transfer.active = false → bus.transfer.idle = true ∧ bus.transfer.cursor = 0

/-- The bus at power-on is within its bounds. -/
theorem bounded_powerOn : Bounded powerOn where
  ppu := Ppu.bounded_powerOn
  slot := by
    intro cartridge impossible
    cases impossible
  ready _ := ⟨rfl, rfl⟩

namespace Bounded

variable {bus : Bus} (bounded : Bounded bus)

include bounded

/-- Whatever a read changes, it leads out of no bounds. -/
theorem of_readEffect {after : Bus} (effect : ReadEffect bus after) : Bounded after := by
  cases effect
  case register address =>
    exact ⟨bounded.ppu.readRegister bus.slot address, bounded.slot, bounded.ready⟩
  all_goals exact ⟨bounded.ppu, bounded.slot, bounded.ready⟩

/-- A write that the cartridge has seen keeps the bounds. -/
theorem of_writeEffect {after : Bus} {value : UInt8} (effect : WriteEffect bus value after) :
    Bounded after := by
  cases effect
  case register address =>
    exact ⟨bounded.ppu.writeRegister bus.slot address value,
      Cartridge.kept_bounded.writeRegister bounded.slot bus.ppu address value, bounded.ready⟩
  case transfer =>
    refine ⟨bounded.ppu, bounded.slot, ?_⟩
    intro stopped
    cases stopped
  all_goals exact ⟨bounded.ppu, bounded.slot, bounded.ready⟩

/-- Offering a write to the cartridge keeps the bus within its bounds. -/
theorem offer (address : UInt16) (value : UInt8) : Bounded (bus.offer address value) :=
  ⟨bounded.ppu, Cartridge.kept_bounded.map bounded.slot (.write address value), bounded.ready⟩

/-- A read keeps the bus within its bounds. -/
theorem read (address : UInt16) : Bounded (bus.read address).2 :=
  bounded.of_readEffect (bus.readEffect_read address)

/-- A write keeps the bus within its bounds. -/
theorem write (address : UInt16) (value : UInt8) : Bounded (bus.write address value) :=
  (bounded.offer address value).of_writeEffect (bus.writeEffect_write address value)

/-- An interrupt of the picture chip that has been taken is no part of the bounds. -/
theorem taken : Bounded { bus with ppu := { bus.ppu with nmiPending := false } } :=
  ⟨bounded.ppu.congr rfl, bounded.slot, bounded.ready⟩

/-- A cartridge that has been told that its request was seen is still within its bounds. -/
theorem acknowledged {cartridge : Cartridge} (found : bus.slot = some cartridge) :
    Bounded { bus with slot := some cartridge.acknowledge } := by
  have slot := Cartridge.kept_bounded.map bounded.slot .acknowledge
  rw [found] at slot
  exact ⟨bounded.ppu, slot, bounded.ready⟩

/-- Other buttons keep the bus within its bounds. -/
theorem setButtons (socket : Nat) (buttons : UInt8) : Bounded (bus.setButtons socket buttons) := by
  unfold Bus.setButtons
  split
  all_goals exact ⟨bounded.ppu, bounded.slot, bounded.ready⟩

/-- A cycle of a transfer under way keeps the bounds; the cursor comes round to zero where the
transfer ends. -/
theorem transferCycle (active : bus.transfer.active = true) :
    Bounded (Machine.transferCycle bus) := by
  cases waits : bus.transfer.idle with
  | true =>
    rw [Machine.transferCycle_of_idle waits]
    refine ⟨bounded.ppu, bounded.slot, ?_⟩
    intro stopped
    exact absurd (active.symm.trans stopped) Bool.noConfusion
  | false =>
    by_cases odd : bus.ticks % 2 = 1
    · rw [Machine.transferCycle_of_odd waits odd]
      refine ⟨bounded.ppu.congr rfl, bounded.slot, ?_⟩
      intro stopped
      change (bus.transfer.active && !(bus.transfer.cursor + 1 == 0)) = false at stopped
      rw [active, Bool.true_and, Bool.not_eq_false'] at stopped
      exact ⟨stopped, beq_iff_eq.1 stopped⟩
    · rw [Machine.transferCycle_of_even waits odd]
      have read := bounded.read (wordOf bus.transfer.cursor bus.transfer.page)
      exact ⟨read.ppu, read.slot, read.ready⟩

end Bounded

/-- The accesses of a processor keep the bus within its bounds. -/
theorem bounded_invariant : Cpu.Invariant Bounded fun _ => True where
  read address bounded := bounded.read address
  write address value _ bounded := bounded.write address value

/-- The delivery of interrupts keeps the bus within its bounds. -/
theorem bounded_interrupts : Machine.InterruptInvariant Bounded where
  accesses :=
    ⟨fun address bounded => bounded.read address,
      fun address value _ bounded => bounded.write address value⟩
  taken bounded := bounded.taken
  acknowledged found bounded := bounded.acknowledged found

end Bus

namespace Machine

/-- A machine within its bounds. -/
structure Bounded (machine : Machine) : Prop where
  /-- The bus is within its bounds. -/
  bus : machine.bus.Bounded
  /-- The processor has no more than eight cycles left. -/
  cycles : machine.cpu.cycles.toNat ≤ 8

/-- The machine at power-on is within its bounds. -/
theorem bounded_powerOn : Bounded powerOn := ⟨Bus.bounded_powerOn, Nat.zero_le _⟩

namespace Bounded

variable {machine : Machine} (bounded : Bounded machine)

include bounded

/-- A dot keeps the machine within its bounds. -/
theorem clockPicture : Bounded machine.clockPicture.2 := by
  have chip := bounded.bus.ppu.clock machine.bus.slot
  have slot := Cartridge.kept_bounded.clock bounded.bus.slot machine.bus.ppu
  rw [clockPicture_eq]
  generalize machine.bus.ppu.clock machine.bus.slot = clocked at chip slot ⊢
  exact ⟨⟨chip, slot, bounded.bus.ready⟩, bounded.cycles⟩

/-- The work of the processor, or of the transfer engine in its place, keeps the machine within its
bounds. -/
theorem processorCycle : Bounded machine.processorCycle := by
  rw [Machine.processorCycle]
  by_cases active : machine.bus.transferring = true
  · rw [if_pos active]
    exact ⟨bounded.bus.transferCycle active, bounded.cycles⟩
  · rw [if_neg active]
    exact ⟨Bus.bounded_invariant.step bounded.bus (fun _ => trivial) machine.cpu,
      machine.cpu.cycles_step_le machine.bus bounded.cycles⟩

/-- The turn of the processor keeps the machine within its bounds. -/
theorem turn : Bounded machine.turn := by
  rw [Machine.turn]
  split
  · exact bounded.processorCycle
  · exact bounded

/-- The interrupt of the picture chip is delivered within the bounds. -/
theorem deliverNmi : Bounded machine.deliverNmi := by
  refine ⟨Bus.bounded_interrupts.deliverNmi bounded.bus, ?_⟩
  by_cases pending : machine.bus.ppu.nmiPending = true
  · rw [deliverNmi_of_pending pending]
    exact Nat.le_of_eq (congrArg UInt8.toNat (machine.cpu.cycles_nmi _))
  · rw [deliverNmi_of_quiet pending]
    exact bounded.cycles

/-- So is the interrupt of the cartridge. -/
theorem deliverIrq : Bounded machine.deliverIrq := by
  refine ⟨Bus.bounded_interrupts.deliverIrq bounded.bus, ?_⟩
  rcases found : machine.bus.slot with _ | cartridge
  · rw [deliverIrq_of_empty found]
    exact bounded.cycles
  · by_cases pending : cartridge.irqPending = true
    · rw [deliverIrq_of_pending found pending]
      exact machine.cpu.cycles_irq_le _ bounded.cycles
    · rw [deliverIrq_of_quiet found pending]
      exact bounded.cycles

/-- The count of ticks has no bounds to keep. -/
theorem countTick : Bounded machine.countTick := by
  rw [countTick_eq]
  exact ⟨⟨bounded.bus.ppu, bounded.bus.slot, bounded.bus.ready⟩, bounded.cycles⟩

/-- A tick keeps the machine within its bounds. -/
theorem tick : Bounded machine.tick.2 := by
  have turned := bounded.clockPicture.turn
  rw [tick_machine]
  exact turned.deliverNmi.deliverIrq.countTick

/-- A reset keeps the machine within its bounds. -/
theorem reset : Bounded machine.reset := by
  have slotReset : Bus.Bounded
      { machine.bus with slot := machine.bus.slot.map Cartridge.reset } :=
    ⟨bounded.bus.ppu, Cartridge.kept_bounded.map bounded.bus.slot .reset, bounded.bus.ready⟩
  have started := Bus.bounded_invariant.reset slotReset machine.cpu
  exact ⟨⟨Ppu.bounded_reset _, started.slot, fun _ => ⟨rfl, rfl⟩⟩,
    Nat.le_of_eq (congrArg UInt8.toNat (machine.cpu.cycles_reset _))⟩

/-- A cartridge within its bounds can be inserted. -/
theorem insert {cartridge : Cartridge} (inside : cartridge.Bounded) :
    Bounded (machine.insert cartridge) := by
  have slot : Cartridge.SlotBounded (some cartridge) := by
    rintro _ ⟨⟩
    exact inside
  have inserted : Bounded ⟨machine.cpu, machine.bus.insert cartridge⟩ :=
    ⟨⟨bounded.bus.ppu, slot, bounded.bus.ready⟩, bounded.cycles⟩
  exact inserted.reset

/-- Whatever is done to a machine keeps its bounds. -/
theorem act (action : Action) : Bounded (machine.act action).2 := by
  cases action with
  | tick =>
    simp only [Machine.act]
    exact bounded.tick
  | reset => exact bounded.reset
  | setButtons socket buttons =>
    exact ⟨bounded.bus.setButtons socket buttons, bounded.cycles⟩
  | read address => exact ⟨bounded.bus.read address, bounded.cycles⟩
  | write address value => exact ⟨bounded.bus.write address value, bounded.cycles⟩

/-- A guise is no part of the bounds. -/
theorem inGuise (guise : Guise) : Bounded (machine.inGuise guise) := by
  refine ⟨⟨bounded.bus.ppu.congr rfl, ?_, bounded.bus.ready⟩, bounded.cycles⟩
  intro cartridge here
  obtain ⟨plain, found, rfl⟩ := Option.map_eq_some_iff.1 here
  have inside := bounded.bus.slot plain found
  exact ⟨inside.board, ⟨inside.filled.1, inside.filled.2⟩⟩

end Bounded

/-- The pixel of a tick lies in the picture, on any machine. -/
theorem inside_of_tick {machine : Machine} {pixel : Pixel} (made : machine.tick.1 = some pixel) :
    pixel.x < pictureWidth ∧ pixel.y < pictureHeight := by
  rw [tick_pixel, clockPicture_eq] at made
  exact Ppu.inside_of_makePixel ((Ppu.clock_pixel _ _).symm.trans made)

/-- So do the pixels of any actions, only some of which are ticks. -/
theorem inside_of_pixelsDrawn {machine : Machine} {actions : List Action} {pixel : Pixel}
    (drawn : pixel ∈ machine.pixelsDrawn actions) :
    pixel.x < pictureWidth ∧ pixel.y < pictureHeight := by
  induction actions generalizing machine with
  | nil => cases drawn
  | cons action actions ih =>
    rw [pixelsDrawn, shown, List.filterMap_cons] at drawn
    rcases made : (machine.act action).1.pixel with _ | first
    · rw [made] at drawn
      exact ih drawn
    · rw [made] at drawn
      rcases List.mem_cons.1 drawn with rfl | later
      · cases action
        case tick => exact inside_of_tick made
        all_goals cases made
      · exact ih later

end Machine

end Nes
