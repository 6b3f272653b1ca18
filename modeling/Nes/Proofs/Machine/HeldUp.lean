import Nes.Proofs.Machine.IrqRequest
import Nes.Proofs.Machine.SpriteTransfer

/-!
# A processor held up under requests

A transfer into sprite memory takes longer than four lines of the picture. While it is going on the
processor stands still, so that a cartridge that asks for an interrupt on every line finds it as the
last request has left it. The first request has the sequence entered, which masks the ones that
follow (`Machine.HeldUp.request`).
-/
namespace Nes

/-- A cartridge that asks for an interrupt on every line of the picture. -/
def Cartridge.AsksEveryLine (cartridge : Cartridge) : Prop :=
  ∃ board, cartridge.board = .mmc3 board ∧ board.irqEnabled = true ∧ board.irqCounter = 0 ∧
    board.irqReload = 0

namespace Cartridge.AsksEveryLine

variable {cartridge : Cartridge} (asks : cartridge.AsksEveryLine)

include asks

/-- A cartridge that asks on every line asks as it counts one. -/
theorem countLine : cartridge.countLine.AsksEveryLine ∧ cartridge.countLine.irqPending = true := by
  obtain ⟨board, found, enabled, counter, reload⟩ := asks
  have counted : cartridge.countLine.board = .mmc3 board.countLine := by
    change cartridge.board.countLine = _
    rw [found]
    rfl
  have restarted : board.countLine.irqCounter = 0 := by
    rw [Mmc3.countLine, counter, reload]
    rfl
  refine ⟨⟨board.countLine, counted, enabled, restarted, reload⟩, ?_⟩
  rw [irqPending, counted]
  change (board.irqPending || (board.countLine.irqCounter == 0 && board.irqEnabled)) = true
  rw [restarted, enabled]
  exact Bool.or_true _

/-- Told that its request was seen, such a cartridge goes on asking. -/
theorem acknowledge : cartridge.acknowledge.AsksEveryLine := by
  obtain ⟨board, found, enabled, counter, reload⟩ := asks
  have told : cartridge.acknowledge.board = .mmc3 board.acknowledge := by
    change cartridge.board.acknowledge = _
    rw [found]
    rfl
  exact ⟨board.acknowledge, told, enabled, counter, reload⟩

end Cartridge.AsksEveryLine

namespace Machine

/-- A transfer leaves the mask register alone, since it only reads registers. -/
theorem mask_transferCycle (bus : Bus) : (transferCycle bus).ppu.mask = bus.ppu.mask := by
  have effect := transferEffect_transferCycle bus
  generalize transferCycle bus = after at effect ⊢
  cases effect with
  | wait transfer => rfl
  | read address transfer =>
    have access := bus.readEffect_read address
    generalize (bus.read address).2 = after at access ⊢
    cases access with
    | register address =>
      change (bus.ppu.readRegister bus.slot address).2.mask = bus.ppu.mask
      rw [Ppu.readRegister]
      split <;> rfl
    | _ => rfl
  | store index value transfer => rfl

/-- While a transfer is going on the processor stands still, and neither the cartridge nor what the
picture shows is changed in its turn. -/
theorem turn_of_transfer {machine : Machine} (active : machine.bus.transferring = true) :
    machine.turn.cpu = machine.cpu ∧ machine.turn.bus.slot = machine.bus.slot ∧
      machine.turn.bus.ppu.mask = machine.bus.ppu.mask := by
  rcases taken : machine.turnHere? with _ | spent
  · rw [turn_of_none taken]
    exact ⟨rfl, rfl, rfl⟩
  · rw [(turn_of_transferring taken active).2]
    exact ⟨rfl, slot_transferCycle machine.bus, mask_transferCycle machine.bus⟩

/-- A transfer that has stored few bytes goes on in the next tick, whether or not that has a
turn. -/
theorem transfer_tick {machine : Machine} (active : machine.bus.transfer.active = true)
    (few : machine.bus.transfer.cursor.toNat < 255) :
    machine.tick.2.bus.transfer.active = true ∧
      machine.tick.2.bus.transfer.cursor.toNat
        ≤ machine.bus.transfer.cursor.toNat
          + if machine.bus.ticks.toNat % 3 = 0 then 1 else 0 := by
  obtain ⟨odd, here⟩ : ∃ odd, machine.At machine.bus.transfer machine.bus.ppu.oam odd :=
    ⟨_, rfl, rfl, rfl⟩
  have own := machine.turnTaken?_isSome_iff
  rcases taken : machine.turnTaken? with _ | spent
  · rw [(here.tick_of_no_turn taken).transfer]
    exact ⟨active, Nat.le_add_right _ _⟩
  · obtain ⟨transfer, oam, engine, there⟩ := here.tick_of_turn active taken
    rw [there.transfer, if_pos (own.1 (by rw [taken]; rfl))]
    cases engine with
    | wait => exact ⟨active, Nat.le_add_right _ _⟩
    | read => exact ⟨active, Nat.le_add_right _ _⟩
    | store busy =>
      have next : (machine.bus.transfer.cursor + 1).toNat
          = machine.bus.transfer.cursor.toNat + 1 := by
        rw [UInt8.toNat_add]
        exact Nat.mod_eq_of_lt (by change _ + 1 < 256; omega)
      have more : (machine.bus.transfer.cursor + 1 == 0) = false := by
        rw [beq_eq_false_iff_ne, ne_eq, ← UInt8.toNat_inj, next]
        exact Nat.succ_ne_zero _
      dsimp only
      rw [more, active]
      exact ⟨rfl, Nat.le_of_eq next⟩

/-- A transfer holds the processor up while the cartridge asks for an interrupt on every line of
the first frame. -/
structure HeldUp (machine : Machine) (count : Nat) : Prop where
  /-- The picture has gone on by as many dots as there were ticks. -/
  here : machine.bus.ppu.StandsAt (341 + count)
  /-- No dot is left out in this frame. -/
  even : machine.bus.ppu.oddFrame = false
  /-- The picture is shown, so the cartridge is told about lines. -/
  shown : machine.bus.ppu.mask.rendering = true
  /-- The cartridge asks on every line. -/
  asks : ∃ cartridge, machine.bus.slot = some cartridge ∧ cartridge.AsksEveryLine
  /-- The ticks have been counted from zero. -/
  counted : machine.bus.ticks.toNat = count
  /-- A transfer is going on. -/
  active : machine.bus.transfer.active = true
  /-- In every third tick at most one byte has been stored. -/
  stored : machine.bus.transfer.cursor.toNat ≤ (count + 2) / 3
  /-- The interrupt of the picture chip is in time. -/
  time : machine.InTime
  /-- The cartridge asks for nothing between ticks. -/
  quiet : machine.bus.irqPending = false
  /-- Interrupts are masked once the first request has been delivered. -/
  masks : machine.cpu.registers.status.irqDisable = decide (259 < count)

namespace HeldUp

variable {machine : Machine} {count : Nat} (held : HeldUp machine count)

include held

/-- The cartridge is told about the lines of the picture. -/
theorem tellsLine_iff (first : count < 341 * 240) :
    machine.bus.ppu.tellsLine ↔ count % 341 = 259 := by
  rw [held.here.tellsLine_iff]
  constructor
  · intro tells
    omega
  · intro last
    exact ⟨held.shown, by omega, by omega⟩

/-- What the dot has made is there when interrupts are delivered. -/
theorem turned :
    let turned := machine.clockPicture.2.turn
    turned.cpu = machine.cpu ∧
    turned.bus.slot = (machine.bus.ppu.clock machine.bus.slot).slot ∧
    turned.bus.ppu.mask = machine.bus.ppu.mask := by
  have mask := congrArg Ppu.Held.mask (machine.bus.ppu.held_clock machine.bus.slot)
  rw [clockPicture_eq]
  generalize machine.bus.ppu.clock machine.bus.slot = clocked at mask ⊢
  let middle : Machine :=
    ⟨machine.cpu, { machine.bus with ppu := clocked.ppu, slot := clocked.slot }⟩
  have active : middle.bus.transferring = true := held.active
  obtain ⟨cpu, slot, same⟩ := turn_of_transfer active
  exact ⟨cpu, slot, same.trans mask⟩

/-- The cartridge asks in every dot where it is told about a line, and after every tick it is ready
to do so again. -/
theorem irqPending_turned :
    machine.clockPicture.2.turn.bus.irqPending = decide machine.bus.ppu.tellsLine := by
  obtain ⟨cartridge, found, asks⟩ := held.asks
  obtain ⟨-, slot, -⟩ := held.turned
  rw [held.here.slot_clock] at slot
  rw [Bus.irqPending, slot]
  by_cases tells : machine.bus.ppu.tellsLine
  · rw [if_pos tells, found, decide_eq_true tells]
    exact asks.countLine.2
  · rw [if_neg tells, decide_eq_false tells]
    exact held.quiet

/-- Near the end of a line there is a request, and all of them but the first are masked. -/
theorem request (first : count < 341 * 240) (last : count % 341 = 259) :
    machine.clockPicture.2.turn.bus.irqPending = true ∧
      machine.clockPicture.2.turn.cpu.registers.status.irqDisable = decide (259 < count) := by
  have tells := (held.tellsLine_iff first).2 last
  rw [held.irqPending_turned, decide_eq_true tells, held.turned.1, held.masks]
  exact ⟨rfl, rfl⟩

/-- A request behind the first one is lost on the processor. -/
theorem tick_of_later (first : count < 341 * 240) (last : count % 341 = 259) (later : 259 < count) :
    machine.tick.2.cpu = machine.clockPicture.2.turn.cpu ∧
      machine.tick.2.bus.ram = machine.clockPicture.2.turn.bus.ram := by
  obtain ⟨pending, masks⟩ := held.request first last
  have ticked := tick_of_noRequest held.time held.quiet
  dsimp only at ticked
  rw [if_pos pending, if_pos (masks.trans (decide_eq_true later))] at ticked
  generalize machine.clockPicture.2.turn = turned at ticked ⊢
  rw [ticked]
  exact ⟨rfl, rfl⟩

/-- Where the cartridge is told about a line, interrupts are masked from then on, whether or not
they were before. -/
theorem tick_of_tellsLine (tells : machine.bus.ppu.tellsLine) :
    (∃ cartridge, machine.tick.2.bus.slot = some cartridge ∧ cartridge.AsksEveryLine) ∧
      machine.tick.2.bus.ppu.mask = machine.bus.ppu.mask ∧
      machine.tick.2.cpu.registers.status.irqDisable = true := by
  obtain ⟨cartridge, found, asks⟩ := held.asks
  obtain ⟨-, slot, mask⟩ := held.turned
  have pending := held.irqPending_turned
  have ticked := tick_of_noRequest held.time held.quiet
  rw [held.here.slot_clock, if_pos tells, found] at slot
  rw [decide_eq_true tells] at pending
  generalize machine.clockPicture.2.turn = turned at slot mask pending ticked
  have there : turned.acknowledged.bus.slot = some cartridge.countLine.acknowledge := by
    change turned.bus.slot.map Cartridge.acknowledge = _
    rw [slot]
    rfl
  have still := asks.countLine.1.acknowledge
  rw [ticked, if_pos pending]
  split
  next masked => exact ⟨⟨_, there, still⟩, mask, masked⟩
  next => exact ⟨⟨_, there, still⟩, mask, rfl⟩

/-- No other dot has an effect on the processor or the cartridge. -/
theorem tick_of_untold (first : count < 341 * 241) (untold : ¬machine.bus.ppu.tellsLine) :
    machine.tick.2.bus.slot = machine.bus.slot ∧
      machine.tick.2.bus.ppu.mask = machine.bus.ppu.mask ∧ machine.tick.2.cpu = machine.cpu := by
  obtain ⟨cpu, slot, mask⟩ := held.turned
  have quiet := held.irqPending_turned
  have ticked := tick_of_noRequest held.time held.quiet
  have request := nmiPending_turn held.time
  have before : machine.bus.ppu.isAt 241 1 = false := by
    rw [Bool.eq_false_iff, ne_eq, held.here.isAt_iff 241 1 (341 * 242 + 1) rfl rfl]
    omega
  rw [held.here.slot_clock, if_neg untold] at slot
  rw [decide_eq_false untold] at quiet
  rw [before, Bool.false_and] at request
  generalize machine.clockPicture.2.turn = turned at cpu slot mask quiet request ticked
  rw [ticked, if_neg (Bool.eq_false_iff.1 quiet),
    deliverNmi_of_quiet (Bool.eq_false_iff.1 request)]
  exact ⟨slot, mask, cpu⟩

/-- The processor is held up for more than the first two lines. -/
theorem tick (early : count < 600) : HeldUp machine.tick.2 (count + 1) := by
  have here := held.here
  have there := standsAt_tick_of_even here held.even (by omega)
  have counted : machine.tick.2.bus.ticks.toNat = count + 1 := by
    rw [machine.ticks_tick, UInt32.toNat_add, held.counted]
    exact Nat.mod_eq_of_lt (by change count + 1 < 4294967296; omega)
  have stored := held.stored
  obtain ⟨active, next⟩ := transfer_tick held.active (by omega)
  rw [held.counted] at next
  have tells := held.tellsLine_iff (by omega)
  have kept : (∃ cartridge, machine.tick.2.bus.slot = some cartridge ∧ cartridge.AsksEveryLine) ∧
      machine.tick.2.bus.ppu.mask = machine.bus.ppu.mask ∧
      machine.tick.2.cpu.registers.status.irqDisable = decide (259 < count + 1) := by
    by_cases told : machine.bus.ppu.tellsLine
    · obtain ⟨asks, mask, masked⟩ := held.tick_of_tellsLine told
      have last := tells.1 told
      have late : 259 < count + 1 := by omega
      exact ⟨asks, mask, masked.trans (decide_eq_true late).symm⟩
    · obtain ⟨slot, mask, cpu⟩ := held.tick_of_untold (by omega) told
      have later : count ≠ 259 := by
        rintro rfl
        exact told (tells.2 rfl)
      have same : 259 < count ↔ 259 < count + 1 := by omega
      refine ⟨slot ▸ held.asks, mask, ?_⟩
      rw [cpu, held.masks, decide_eq_decide]
      exact same
  obtain ⟨asks, mask, masks⟩ := kept
  constructor
  case here => exact there.1
  case even => exact there.2
  case shown => rw [mask, held.shown]
  case asks => exact asks
  case counted => exact counted
  case active => exact active
  case stored => split at next <;> omega
  case time => exact inTime_tick held.time
  case quiet => exact machine.irqPending_tick
  case masks => exact masks

end HeldUp

/-- So it is in a whole run. -/
theorem heldUp_after {machine : Machine} (held : HeldUp machine 0) {count : Nat}
    (early : count ≤ 600) : HeldUp (machine.after (List.replicate count .tick)) count := by
  induction count with
  | zero => exact held
  | succ count ih =>
    have next := (ih (by omega)).tick (by omega)
    rw [List.replicate_succ', after_append]
    exact next

/-- What makes a cartridge of board 4 ask on every line and holds the processor up. -/
def askEveryLine : List Action := [.write 0xE001 0, .write 0x2001 0x08, .write 0x4014 0]

/-- The counter of board 4 asks on every line from a reset on, once it may. -/
theorem asksEveryLine_write {cartridge : Cartridge} {board : Mmc3}
    (mounted : cartridge.board = .mmc3 board) :
    (cartridge.reset.write 0xE001 0).2.AsksEveryLine := by
  have written : (cartridge.reset.write 0xE001 0).2.board
      = .mmc3 { board.reset with irqEnabled := true } := by
    rw [Cartridge.write, show cartridge.reset.board = .mmc3 board.reset by
      change cartridge.board.reset = _
      rw [mounted]
      rfl]
    rfl
  exact ⟨_, written, rfl, rfl, rfl⟩

/-- After a reset three writes hold the processor up. -/
theorem heldUp_reset {machine : Machine} {cartridge : Cartridge} {board : Mmc3}
    (found : machine.bus.slot = some cartridge) (mounted : cartridge.board = .mmc3 board) :
    HeldUp (machine.reset.after askEveryLine) 0 := by
  have slot := machine.slot_reset
  rw [found] at slot
  have made : machine.reset.after askEveryLine
      = ⟨machine.reset.cpu, { machine.reset.bus with
          ppu := { machine.reset.bus.ppu with mask := ⟨0x08⟩ }
          slot := some (cartridge.reset.write 0xE001 0).2
          transfer := machine.reset.bus.transfer.start 0 }⟩ := by
    change Machine.mk _ (((machine.reset.bus.write 0xE001 0).write 0x2001 0x08).write 0x4014 0) = _
    rw [Bus.write_of_program slot (by decide), Bus.write_mask, Bus.write_transfer]
    rfl
  have ticks := machine.ticks_reset
  have time := inTime_after machine.inTime_reset askEveryLine
  have quiet := irqPending_after machine.irqPending_reset askEveryLine
  rw [made] at time quiet ⊢
  constructor
  case here => exact ⟨by decide, rfl, rfl⟩
  case even => rfl
  case shown =>
    show (⟨0x08⟩ : Ppu.Mask).rendering = true
    decide
  case asks => exact ⟨_, rfl, asksEveryLine_write mounted⟩
  case counted => exact congrArg UInt32.toNat ticks
  case active => rfl
  case stored => exact Nat.zero_le _
  case time => exact time
  case quiet => exact quiet
  case masks => rfl

end Machine

end Nes
