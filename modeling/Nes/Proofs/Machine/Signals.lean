import Nes.Proofs.Machine.Raster
import Nes.Proofs.Ppu.Signals

/-!
# Signals over whole runs

Between two dots the processor can take the blank flag and the request for an interrupt back, and
changes no signal otherwise (`Ppu.Settles`). So what a dot makes of the signals holds of whole runs
from a reset: the flags are up at certain places of the frame only, they stay up until the frame
ends or a reset, and the processor takes the interrupt in the very tick in which it is asked for,
which is the one in which the vertical blank begins (`Machine.signals_of_run`).
-/
namespace Nes

namespace Ppu

/-- The chip has left a place of the current frame behind. -/
def Behind (ppu : Ppu) (line dot : Int16) : Prop :=
  line < ppu.line ∨ ppu.line = line ∧ dot < ppu.dot

instance (ppu : Ppu) (line dot : Int16) : Decidable (ppu.Behind line dot) :=
  inferInstanceAs (Decidable (_ ∨ _))

/-- On the grid, the place of a line and a dot is behind where its number is less. -/
theorem StandsAt.behind_iff {ppu : Ppu} {place : Nat} (here : StandsAt ppu place)
    (line dot : Int16) (target : Nat)
    (sameLine : line.toInt = ((target / 341 : Nat) : Int) - 1)
    (sameDot : dot.toInt = (target % 341 : Nat)) : ppu.Behind line dot ↔ target < place := by
  rw [Behind, Int16.lt_iff_toInt_lt, Int16.lt_iff_toInt_lt, ← Int16.toInt_inj, here.line, here.dot,
    sameLine, sameDot]
  omega

/-- A chip signals what it signalled before, but for the blank flag, which may have been taken
back. -/
structure Settles (ppu after : Ppu) : Prop where
  /-- The chip has not moved. -/
  grid : after.grid = ppu.grid
  /-- The blank flag has not risen. -/
  vblank : after.status.vblank = true → ppu.status.vblank = true
  /-- The hit flag is as before. -/
  zeroHit : after.status.zeroHit = ppu.status.zeroHit
  /-- So is the overflow flag. -/
  overflow : after.status.overflow = ppu.status.overflow
  /-- So is the request for an interrupt. -/
  nmiPending : after.nmiPending = ppu.nmiPending

section Accesses

variable {κ : Type} [CartridgeSide κ] (ppu : Ppu) (slot : κ) (address : UInt16)

/-- A read of a register takes the blank flag back at most. -/
theorem settles_readRegister : Settles ppu (ppu.readRegister slot address).2 := by
  have grid := congrArg Raster.grid (ppu.raster_readRegister slot address)
  rw [readRegister] at grid ⊢
  split at grid
  · exact ⟨grid, fun risen => absurd risen Bool.false_ne_true, rfl, rfl, rfl⟩
  · exact ⟨grid, id, rfl, rfl, rfl⟩
  · exact ⟨grid, id, rfl, rfl, rfl⟩
  · exact ⟨grid, id, rfl, rfl, rfl⟩

/-- A write of a register neither asks for an interrupt nor takes a request back. -/
theorem nmiPending_writeRegister (value : UInt8) :
    (ppu.writeRegister slot address value).1.nmiPending = ppu.nmiPending := by
  rw [writeRegister]
  split
  case h_6 =>
    rw [writeScroll]
    dsimp only
    split <;> rfl
  case h_7 =>
    rw [writeAddress]
    split <;> rfl
  case h_8 =>
    simp only [writeData, writeVideo]
    split
    · rfl
    split
    · rfl
    split <;> rfl
  all_goals rfl

/-- A write of a register leaves the signals alone. -/
theorem settles_writeRegister (value : UInt8) :
    Settles ppu (ppu.writeRegister slot address value).1 := by
  have status := ppu.status_writeRegister slot address value
  constructor
  · exact congrArg Raster.grid (ppu.raster_writeRegister slot address value)
  · rw [status]
    exact id
  · rw [status]
  · rw [status]
  · exact ppu.nmiPending_writeRegister slot address value

end Accesses

/-- A property that is not ended by the blank flag being taken back is kept by accesses. -/
theorem keptByAccess_of_settles {Holds : Ppu → Prop}
    (settle : ∀ ppu after, Settles ppu after → Holds ppu → Holds after) : KeptByAccess Holds where
  read {ppu} slot address holds := settle _ _ (ppu.settles_readRegister slot address) holds
  write {ppu} slot address value holds :=
    settle _ _ (ppu.settles_writeRegister slot address value) holds
  store {ppu} _ _ holds := settle _ _ (show Settles ppu _ from ⟨rfl, id, rfl, rfl, rfl⟩) holds

/-- The blank flag is up between dot 1 of line 241 and dot 1 of line -1 at most, and the other two
flags are down from there to dot 1 of line 0. -/
structure Punctual (ppu : Ppu) (place : Nat) : Prop where
  /-- The chip stands at the place. -/
  here : StandsAt ppu place
  /-- The blank flag is up between its two places only. -/
  blank : ppu.status.vblank = true → place ≤ 1 ∨ 341 * 242 + 1 < place
  /-- The other two flags are down until the picture begins. -/
  fresh : 1 < place → place ≤ 342 → ppu.status.zeroHit = false ∧ ppu.status.overflow = false

/-- The flags are still in their places once the blank flag has been taken back. -/
theorem Punctual.settle {ppu after : Ppu} {place : Nat} (punctual : Punctual ppu place)
    (settles : Settles ppu after) : Punctual after place where
  here := punctual.here.of_grid settles.grid
  blank := punctual.blank ∘ settles.vblank
  fresh := by
    rw [settles.zeroHit, settles.overflow]
    exact punctual.fresh

/-- A dot keeps the flags in their places. -/
theorem Punctual.clock {κ : Type} [CartridgeSide κ] {ppu : Ppu} {place : Nat}
    (punctual : Punctual ppu place) (slot : κ) :
    ∃ next, Punctual (ppu.clock slot).ppu next := by
  have here := punctual.here
  have left := here.leftOut_cases
  obtain ⟨found, hit, later, shown⟩ := here.signals_clock slot
  rcases here.last_or_more with rfl | more
  · refine ⟨0, (here.clock_last slot).1, fun _ => .inl (Nat.zero_le _), ?_⟩
    exact fun impossible => absurd impossible (by decide)
  · have there := (here.clock slot more).1
    generalize (ppu.clock slot).ppu = after at there shown ⊢
    simp only [signals, Signals.mk.injEq] at shown
    obtain ⟨vblank, zeroHit, overflow, -⟩ := shown
    refine ⟨_, there, ?_, ?_⟩
    · intro up
      rw [vblank, Bool.or_eq_true, Bool.and_eq_true, bne_iff_ne, beq_iff_eq] at up
      rcases up with ⟨still, notFirst⟩ | rises
      · have before := punctual.blank still
        omega
      · omega
    · intro behind before
      have none : found = false ∧ hit = false := by
        rw [← Bool.not_eq_true, ← Bool.not_eq_true, ← not_or]
        intro either
        have drawn := later either
        omega
      rw [zeroHit, overflow, none.1, none.2, Bool.or_false, Bool.or_false]
      by_cases first : place = 1
      · simp [first]
      · have down := punctual.fresh (by omega) (by omega)
        rw [down.1, down.2]
        exact ⟨rfl, rfl⟩

/-- The flags are in their places. -/
def OnTime (ppu : Ppu) : Prop := ∃ place, Punctual ppu place

/-- Accesses to the chip leave the flags in their places. -/
theorem onTime_kept : KeptByAccess OnTime :=
  keptByAccess_of_settles fun _ _ settles ⟨place, punctual⟩ => ⟨place, punctual.settle settles⟩

/-- The start of the picture with all flags down. -/
theorem onTime_reset (ppu : Ppu) : ppu.reset.OnTime :=
  ⟨341, ⟨by decide, rfl, rfl⟩, nofun, fun _ _ => ⟨rfl, rfl⟩⟩

end Ppu

/-- A write to `2000` is one of the control register, whatever the cartridge is. -/
theorem Bus.control_write (bus : Bus) (value : UInt8) :
    (bus.write 0x2000 value).ppu.control = ⟨value⟩ := by
  rw [bus.write_of_low (by decide), writeUnclaimed, if_neg (by decide), if_pos (by decide)]
  rfl

namespace Machine

/-- The flags are in their places, and no interrupt of the picture chip waits. -/
structure InTime (machine : Machine) : Prop where
  /-- The flags are in their places. -/
  onTime : machine.bus.ppu.OnTime
  /-- No interrupt of the picture chip waits. -/
  quiet : machine.bus.ppu.nmiPending = false

/-- The processor takes the interrupt of the picture chip. -/
def enterNmi (machine : Machine) : Machine :=
  let bus := { machine.bus with ppu := { machine.bus.ppu with nmiPending := false } }
  ⟨(machine.cpu.nmi bus).1, (machine.cpu.nmi bus).2⟩

/-- The request for an interrupt is the same before and after accesses. -/
theorem nmiPending_kept (fixed : Bool) : Ppu.KeptByAccess fun ppu => ppu.nmiPending = fixed :=
  Ppu.keptByAccess_of_settles fun _ _ settles same => settles.nmiPending.trans same

/-- No interrupt of the picture chip waits once it has been delivered. -/
theorem nmiPending_deliverNmi (machine : Machine) :
    machine.deliverNmi.bus.ppu.nmiPending = false := by
  by_cases pending : machine.bus.ppu.nmiPending = true
  · rw [deliverNmi_of_pending pending]
    have taken := (nmiPending_kept false).interrupts fun _ _ => rfl
    exact taken.accesses.nmi rfl Bus.stackAddress_lt machine.cpu
  · rw [deliverNmi_of_quiet pending]
    exact Bool.eq_false_iff.2 pending

/-- The request is made at one place and nowhere else. -/
theorem nmiPending_turn {machine : Machine} (time : machine.InTime) :
    machine.clockPicture.2.turn.bus.ppu.nmiPending
      = (machine.bus.ppu.isAt 241 1 && machine.bus.ppu.control.nmiEnabled) := by
  obtain ⟨place, punctual⟩ := time.onTime
  obtain ⟨found, hit, -, shown⟩ := punctual.here.signals_clock machine.bus.slot
  have request := congrArg Ppu.Signals.nmiPending shown
  have begins : machine.bus.ppu.isAt 241 1 = (place == 341 * 242 + 1) := by
    rw [Bool.eq_iff_iff, punctual.here.isAt_iff 241 1 (341 * 242 + 1) rfl rfl, beq_iff_eq]
  apply (nmiPending_kept _).turn
  rw [clockPicture_eq, begins]
  generalize machine.bus.ppu.clock machine.bus.slot = after at request ⊢
  refine request.trans ?_
  rw [time.quiet, Bool.false_or]

/-- In a tick the processor takes the interrupt exactly if it is asked for in its dot. -/
theorem tick_of_inTime {machine : Machine} (time : machine.InTime) :
    machine.tick.2
      = (if machine.bus.ppu.isAt 241 1 && machine.bus.ppu.control.nmiEnabled then
          machine.clockPicture.2.turn.enterNmi
        else machine.clockPicture.2.turn).deliverIrq.countTick := by
  have request := nmiPending_turn time
  rw [tick_machine, ← request]
  split
  next pending => rw [deliverNmi_of_pending pending, enterNmi]
  next quiet => rw [deliverNmi_of_quiet quiet]

/-- A tick moves the flags on in time and leaves no interrupt waiting. -/
theorem inTime_tick {machine : Machine} (time : machine.InTime) : machine.tick.2.InTime := by
  obtain ⟨place, punctual⟩ := time.onTime
  constructor
  · exact Ppu.onTime_kept.tick (fun _ ⟨place, punctual⟩ =>
      ⟨place, punctual.here.of_grid rfl, punctual.blank, punctual.fresh⟩)
      (punctual.clock machine.bus.slot)
  · have taken := machine.clockPicture.2.turn.nmiPending_deliverNmi
    have still := ((nmiPending_kept false).interrupts fun _ _ => rfl).deliverIrq taken
    rw [tick_machine, countTick_eq]
    generalize machine.clockPicture.2.turn.deliverNmi.deliverIrq = after at still ⊢
    exact still

/-- A reset puts the flags in their places. -/
theorem inTime_reset (machine : Machine) : machine.reset.InTime :=
  ⟨Ppu.onTime_reset _, rfl⟩

/-- Whatever is done to a machine, its signals stay in time. -/
theorem inTime_act {machine : Machine} (time : machine.InTime) (action : Action) :
    (machine.act action).2.InTime := by
  cases action with
  | tick =>
    simp only [act]
    exact inTime_tick time
  | reset => exact machine.inTime_reset
  | setButtons socket buttons =>
    simp only [act, Bus.setButtons]
    split
    · exact ⟨time.onTime, time.quiet⟩
    · exact ⟨time.onTime, time.quiet⟩
    · exact time
  | read address =>
    exact ⟨Ppu.onTime_kept.busRead time.onTime address,
      (nmiPending_kept false).busRead time.quiet address⟩
  | write address value =>
    exact ⟨Ppu.onTime_kept.busWrite time.onTime address value,
      (nmiPending_kept false).busWrite time.quiet address value⟩

/-- After any actions the flags are in their places. -/
theorem inTime_after {machine : Machine} (time : machine.InTime) (actions : List Action) :
    (machine.after actions).InTime := by
  induction actions generalizing machine with
  | nil => exact time
  | cons action actions ih => exact ih (inTime_act time action)

/-- The action that makes the flags of a frame fall. -/
def EndsFlags (machine : Machine) (action : Action) : Prop :=
  action = .reset ∨ action = .tick ∧ machine.bus.ppu.isAt (-1) 1 = true

/-- The action that leaves a frame. -/
def EndsFrame (machine : Machine) (action : Action) : Prop :=
  action = .reset ∨ action = .tick ∧ machine.bus.ppu.isAt 260 340 = true

/-- The flags that rise in the picture and were up are up. -/
def StaysUp (before after : Ppu) : Prop :=
  (before.status.zeroHit = true → after.status.zeroHit = true) ∧
    (before.status.overflow = true → after.status.overflow = true)

/-- Accesses to the chip do not take back the flags that rise in the picture. -/
theorem staysUp_kept (before : Ppu) : Ppu.KeptByAccess (StaysUp before) :=
  Ppu.keptByAccess_of_settles fun _ _ settles up => by
    rw [StaysUp, settles.zeroHit, settles.overflow]
    exact up

/-- No action but those that end the flags makes one of the two fall. -/
theorem staysUp_act {before : Ppu} {machine : Machine} (time : machine.InTime)
    (up : StaysUp before machine.bus.ppu) (action : Action) :
    StaysUp before (machine.act action).2.bus.ppu ∨ EndsFlags machine action := by
  cases action with
  | tick =>
    obtain ⟨place, punctual⟩ := time.onTime
    by_cases ends : machine.bus.ppu.isAt (-1) 1 = true
    · exact .inr (.inr ⟨rfl, ends⟩)
    · left
      obtain ⟨found, hit, -, shown⟩ := punctual.here.signals_clock machine.bus.slot
      have elsewhere : (place != 1) = true := by
        rw [punctual.here.isAt_iff (-1) 1 1 rfl rfl] at ends
        exact bne_iff_ne.2 ends
      have clocked : StaysUp before (machine.bus.ppu.clock machine.bus.slot).ppu := by
        generalize (machine.bus.ppu.clock machine.bus.slot).ppu = after at shown ⊢
        simp only [Ppu.signals, Ppu.Signals.mk.injEq, elsewhere, Bool.and_true] at shown
        rw [StaysUp, shown.2.1, shown.2.2.1]
        constructor
        · intro raised
          rw [up.1 raised, Bool.true_or]
        · intro raised
          rw [up.2 raised, Bool.true_or]
      simp only [act]
      exact (staysUp_kept before).tick (fun _ up => up) clocked
  | reset => exact .inr (.inl rfl)
  | setButtons socket buttons =>
    left
    simp only [act, Bus.setButtons]
    split <;> exact up
  | read address => exact .inl ((staysUp_kept before).busRead up address)
  | write address value => exact .inl ((staysUp_kept before).busWrite up address value)

/-- The vertical blank of this frame has begun. -/
def PastBlank (machine : Machine) : Prop :=
  ∃ place, machine.bus.ppu.StandsAt place ∧ 341 * 242 + 1 < place

/-- A blank that has begun has begun until the frame is left. -/
theorem pastBlank_act {machine : Machine} (past : machine.PastBlank) (action : Action) :
    (machine.act action).2.PastBlank ∨ EndsFrame machine action := by
  obtain ⟨place, here, past⟩ := past
  have unmoved {bus : Bus} (same : bus.ppu.raster = machine.bus.ppu.raster) :
      bus.ppu.StandsAt place := here.of_grid (congrArg Ppu.Raster.grid same)
  cases action with
  | tick =>
    rcases here.last_or_more with rfl | more
    · exact .inr (.inr ⟨rfl, (here.isAt_iff 260 340 _ rfl rfl).2 rfl⟩)
    · left
      simp only [act]
      exact ⟨_, (standsAt_tick here more).1, by omega⟩
  | reset => exact .inr (.inl rfl)
  | setButtons socket buttons =>
    refine .inl ⟨place, ?_, past⟩
    simp only [act, Bus.setButtons]
    split <;> exact here
  | read address => exact .inl ⟨place, unmoved ((Ppu.raster_kept _).busRead rfl address), past⟩
  | write address value =>
    exact .inl ⟨place, unmoved ((Ppu.raster_kept _).busWrite rfl address value), past⟩

/-- The vertical blank begins once in a frame. -/
theorem meets_endsFrame {machine : Machine} (time : machine.InTime)
    (begins : machine.bus.ppu.isAt 241 1 = true) (later : List Action)
    (again : (machine.tick.2.after later).bus.ppu.isAt 241 1 = true) :
    machine.tick.2.Meets EndsFrame later := by
  obtain ⟨place, punctual⟩ := time.onTime
  have here := punctual.here
  have start := (here.isAt_iff 241 1 (341 * 242 + 1) rfl rfl).1 begins
  have left := here.leftOut_of_ne (by omega)
  have past : machine.tick.2.PastBlank := ⟨_, (standsAt_tick here (by omega)).1, by omega⟩
  have step (machine : Machine) (action : Action) (past : machine.PastBlank) :
      (machine.act action).2.PastBlank ∨ EndsFrame machine action := pastBlank_act past action
  rcases holds_or_meets step past later with ⟨there, stands, still⟩ | meets
  · have returned := (stands.isAt_iff 241 1 (341 * 242 + 1) rfl rfl).1 again
    omega
  · exact meets

/-- In every run from a reset, whatever the cartridge and the program are and whatever registers
are accessed: the blank flag is up between dot 1 of line 241 and dot 1 of line -1 at most; the
other two flags are down from there to dot 1 of line 0, and stay up once they are up until a dot 1
of line -1 or a reset; a tick gives the processor the interrupt of the picture chip exactly if it
clocks dot 1 of line 241 with the interrupt enabled, and that dot comes once in a frame. -/
theorem signals_of_run (machine : Machine) (actions : List Action) :
    let now := machine.reset.after actions
    let chip := now.bus.ppu
    (chip.status.vblank = true → chip.Behind 241 1 ∨ ¬chip.Behind (-1) 1) ∧
    (chip.Behind (-1) 1 → ¬chip.Behind 0 1 →
      chip.status.zeroHit = false ∧ chip.status.overflow = false) ∧
    (∀ later, StaysUp chip (now.after later).bus.ppu ∨ now.Meets EndsFlags later) ∧
    now.tick.2
      = (if chip.isAt 241 1 && chip.control.nmiEnabled then now.clockPicture.2.turn.enterNmi
        else now.clockPicture.2.turn).deliverIrq.countTick ∧
    ∀ later, chip.isAt 241 1 = true → (now.tick.2.after later).bus.ppu.isAt 241 1 = true →
      now.tick.2.Meets EndsFrame later := by
  intro now chip
  have time : now.InTime := inTime_after machine.inTime_reset actions
  obtain ⟨place, punctual⟩ := time.onTime
  have here := punctual.here
  have behindBlank := here.behind_iff 241 1 (341 * 242 + 1) rfl rfl
  have behindEnd := here.behind_iff (-1) 1 1 rfl rfl
  have behindStart := here.behind_iff 0 1 342 rfl rfl
  refine ⟨?_, ?_, ?_, tick_of_inTime time, fun later begins => meets_endsFrame time begins later⟩
  · intro up
    rw [behindBlank, behindEnd]
    have place := punctual.blank up
    omega
  · intro behind before
    rw [behindEnd] at behind
    rw [behindStart] at before
    exact punctual.fresh behind (by omega)
  · intro later
    have step (machine : Machine) (action : Action)
        (holds : machine.InTime ∧ StaysUp chip machine.bus.ppu) :
        ((machine.act action).2.InTime ∧ StaysUp chip (machine.act action).2.bus.ppu) ∨
          EndsFlags machine action :=
      (staysUp_act holds.1 holds.2 action).imp_left (.intro (inTime_act holds.1 action))
    exact (holds_or_meets step ⟨time, id, id⟩ later).imp_left And.right

/-- The first frame after a reset leaves out no dot. -/
theorem standsAt_firstFrame (machine : Machine) {ticks : Nat} (inside : 341 + ticks < 341 * 262) :
    let now := machine.reset.after (List.replicate ticks .tick)
    now.bus.ppu.StandsAt (341 + ticks) ∧ now.bus.ppu.oddFrame = false := by
  induction ticks with
  | zero => exact ⟨⟨by decide, rfl, rfl⟩, rfl⟩
  | succ ticks ih =>
    obtain ⟨here, even⟩ := ih (by omega)
    rw [List.replicate_succ', after_append]
    exact standsAt_tick_of_even here even (by omega)

/-- A run up to dot 1 of line 241, where the interrupt is enabled. -/
def lateEnable : List Action := List.replicate 82182 .tick ++ [.write 0x2000 0x80]

/-- The run ends at the dot of the vertical blank, with the interrupt enabled. -/
theorem isAt_lateEnable :
    (powerOn.reset.after lateEnable).bus.ppu.isAt 241 1 = true ∧
      (powerOn.reset.after lateEnable).bus.ppu.control.nmiEnabled = true := by
  have first := (standsAt_firstFrame powerOn (show 341 + 82182 < 341 * 262 by decide)).1
  rw [lateEnable, after_append]
  generalize powerOn.reset.after (List.replicate 82182 .tick) = before at first ⊢
  have same : (before.bus.write 0x2000 0x80).ppu.raster = before.bus.ppu.raster :=
    (Ppu.raster_kept _).busWrite rfl _ _
  have there := first.of_grid (congrArg Ppu.Raster.grid same)
  constructor
  · exact (there.isAt_iff 241 1 (341 + 82182) rfl rfl).2 rfl
  · change (before.bus.write 0x2000 0x80).ppu.control.nmiEnabled = true
    rw [before.bus.control_write]
    rfl

/-- The processor takes the interrupt with the tick after it was enabled there, and the flags of the
picture are down right after a reset. -/
theorem signals_of_run_lateEnable :
    let now := powerOn.reset.after lateEnable
    now.tick.2 = now.clockPicture.2.turn.enterNmi.deliverIrq.countTick ∧
      powerOn.reset.bus.ppu.status.zeroHit = false := by
  obtain ⟨isAt, enabled⟩ := isAt_lateEnable
  obtain ⟨-, -, -, tick, -⟩ := signals_of_run powerOn lateEnable
  constructor
  · rw [isAt, enabled] at tick
    exact tick
  · exact ((signals_of_run powerOn []).2.1 (by decide) (by decide)).1

end Machine

end Nes
