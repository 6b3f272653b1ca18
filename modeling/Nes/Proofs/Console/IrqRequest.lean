import Nes.Proofs.Console.Reachable
import Nes.Proofs.Machine.HeldUp

/-!
# Requests of the cartridge in use

Between the ticks of a reachable console the cartridge asks for nothing. What becomes of a request
is settled in the tick that makes it (`irq_of_reachable`): a program can take it back, or the
processor enters the interrupt sequence, or it masks the interrupt and the request is gone. A
cartridge that asks on every line shows the last case, since the first request masks the second
one (`masked_request_lost`).
-/
namespace Nes.Console

/-- The signals of the picture chip stay in time. -/
theorem lasting_inTime : Lasting Machine.InTime where
  powerOn := ⟨⟨341, ⟨by decide, rfl, rfl⟩, nofun, fun _ _ => ⟨rfl, rfl⟩⟩, rfl⟩
  insert {machine cartridge} _ _ :=
    Machine.inTime_reset ⟨machine.cpu, machine.bus.insert cartridge⟩
  act time action := Machine.inTime_act time action
  told time := by
    obtain ⟨⟨place, punctual⟩, quiet⟩ := time
    have here := punctual.here
    exact ⟨⟨place, ⟨here.inside, here.line, here.dot⟩, punctual.blank, punctual.fresh⟩, quiet⟩
  inGuise time _ := by
    obtain ⟨⟨place, punctual⟩, quiet⟩ := time
    exact ⟨⟨place, punctual.here.of_grid rfl, punctual.blank, punctual.fresh⟩, quiet⟩

/-- What is written on the label does not ask for interrupts. -/
theorem lasting_noRequest : Lasting fun machine => machine.bus.irqPending = false where
  powerOn := rfl
  insert {machine cartridge} _ _ :=
    Machine.irqPending_reset ⟨machine.cpu, machine.bus.insert cartridge⟩
  act quiet action := Machine.irqPending_act quiet action
  told quiet := quiet
  inGuise {machine} quiet guise := by
    have same : (machine.inGuise guise).bus.irqPending = machine.bus.irqPending := by
      change (machine.bus.slot.map _).any _ = _
      rw [Option.any_map]
      rfl
    rw [same]
    exact quiet

/-- A console with a cartridge that asks on every line, held up for a number of ticks. -/
def heldUp (count : Nat) : Console :=
  (powerOn.insert .bareMmc3).mapMachine fun machine =>
    machine.after (Machine.askEveryLine ++ List.replicate count .tick)

/-- The console that is held up has been led there by use. -/
theorem reachable_heldUp (count : Nat) : (heldUp count).Reachable :=
  (Reachable.powerOn.insert Cartridge.accepted_bareMmc3).after _

/-- For its first 600 ticks a transfer holds the machine up, with a request on every line. -/
theorem machine_heldUp {count : Nat} (early : count ≤ 600) :
    (heldUp count).machine.HeldUp count := by
  let inserted : Machine := ⟨.powerOn, Bus.powerOn.insert .bareMmc3⟩
  have held : (inserted.reset.after Machine.askEveryLine).HeldUp 0 := Machine.heldUp_reset rfl rfl
  have later := Machine.heldUp_after held early
  rw [← Machine.after_append] at later
  exact later

/-- No request of the cartridge is carried over from one tick to another. One that its dot has made
is still there when interrupts are delivered, unless the program has written to an even address from
`E000` on in this very tick. Then the processor enters the interrupt sequence, or it masks the
interrupt and the request is dropped, with no other effect of it. The interrupt of the picture chip
is never delivered in the same tick. -/
theorem irq_of_reachable {console : Console} (reachable : console.Reachable) :
    let machine := console.machine
    let clocked := machine.clockPicture.2
    let turned := clocked.turn
    (machine.bus.irqPending = false ∧ machine.tick.2.bus.irqPending = false) ∧
    turned.bus.irqPending
      = (clocked.bus.irqPending && !clocked.turnAccesses.any Cpu.Access.takesIrqBack) ∧
    (turned.bus.irqPending = true → turned.bus.ppu.nmiPending = false) ∧
    machine.tick.2
      = (if turned.bus.irqPending then
          if turned.cpu.registers.status.irqDisable then turned.acknowledged
          else turned.acknowledged.enterIrq
        else turned.deliverNmi).countTick := by
  have time : console.machine.InTime := reachable.holds lasting_inTime
  have quiet : console.machine.bus.irqPending = false := reachable.holds lasting_noRequest
  have after := console.machine.irqPending_tick
  have taken := console.machine.clockPicture.2.irqPending_turn
  have alone := Machine.nmiPending_of_irqPending time quiet
  have ticked := Machine.tick_of_noRequest time quiet
  exact ⟨⟨quiet, after⟩, taken, alone, ticked⟩

/-- The first request has the sequence entered. -/
theorem irq_of_reachable_heldUp :
    let machine := (heldUp 259).machine
    let turned := machine.clockPicture.2.turn
    (heldUp 259).Reachable ∧ turned.bus.irqPending = true ∧
      turned.bus.ppu.nmiPending = false ∧
      machine.tick.2 = turned.acknowledged.enterIrq.countTick := by
  have held := machine_heldUp (show 259 ≤ 600 by decide)
  have known := irq_of_reachable (reachable_heldUp 259)
  refine ⟨reachable_heldUp 259, ?_⟩
  generalize (heldUp 259).machine = machine at held known ⊢
  obtain ⟨pending, masks⟩ := held.request (by decide) (by decide)
  have unmasked := Bool.eq_false_iff.1 (masks.trans (decide_eq_false (Nat.lt_irrefl 259)))
  obtain ⟨-, -, alone, ticked⟩ := known
  rw [if_pos pending, if_neg unmasked] at ticked
  exact ⟨pending, alone pending, ticked⟩

/-- The second request is lost: the cartridge asks when interrupts are delivered, but the processor
masks the interrupt and does nothing, and the cartridge does not ask any more. -/
theorem masked_request_lost :
    let machine := (heldUp 600).machine
    let turned := machine.clockPicture.2.turn
    (heldUp 600).Reachable ∧
      turned.bus.irqPending = true ∧ turned.cpu.registers.status.irqDisable = true ∧
      machine.tick.2.cpu = turned.cpu ∧ machine.tick.2.bus.ram = turned.bus.ram ∧
      machine.tick.2.bus.irqPending = false := by
  have held := machine_heldUp (Nat.le_refl 600)
  obtain ⟨pending, masks⟩ := held.request (by decide) (by decide)
  obtain ⟨cpu, ram⟩ := held.tick_of_later (by decide) (by decide) (by decide)
  have after := (heldUp 600).machine.irqPending_tick
  exact ⟨reachable_heldUp 600, pending, masks.trans (decide_eq_true (by decide)), cpu, ram, after⟩

end Nes.Console
