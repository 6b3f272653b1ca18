import Nes.Proofs.Machine.Clock

/-!
# The transfer into sprite memory

While a transfer is going on every turn of the processor belongs to the transfer engine. What the
engine does depends on its own state and on whether the count of ticks is odd, which changes from
each turn to the next, also where the count wraps. Dots, interrupts and the reads of the engine
itself leave the engine and sprite memory alone, since interrupts write nowhere but in the stack
page.
-/
namespace Nes

namespace Machine

/-- Whether the count of ticks is odd at the next turn of the processor: twice the count is, modulo
three, the number of ticks until then. -/
def nextTurnOdd (ticks : UInt32) : Bool := (ticks.toNat + 2 * ticks.toNat % 3) % 2 == 1

/-- A tick without a turn brings the next turn nearer. -/
theorem nextTurnOdd_of_no_turn {ticks : UInt32} (between : ticks.toNat % 3 ≠ 0) :
    nextTurnOdd (ticks + 1) = nextTurnOdd ticks := by
  have bound := ticks.toNat_lt
  have below : ticks.toNat + 1 < 2 ^ 32 := by omega
  have next : (ticks + 1).toNat = ticks.toNat + 1 := by
    rw [UInt32.toNat_add]
    exact Nat.mod_eq_of_lt below
  have distance : 2 * ticks.toNat % 3 = 2 * (ticks.toNat + 1) % 3 + 1 := by
    have residue : ticks.toNat % 3 = 1 ∨ ticks.toNat % 3 = 2 := by omega
    rcases residue with one | two
    · have now : 2 * ticks.toNat % 3 = 2 := by omega
      omega
    · have now : 2 * ticks.toNat % 3 = 1 := by omega
      omega
  have same : ticks.toNat + 1 + 2 * (ticks.toNat + 1) % 3
      = ticks.toNat + 2 * ticks.toNat % 3 := by
    omega
  rw [nextTurnOdd, nextTurnOdd, next, same]

/-- Odd and even turns take turns. The count wraps from an odd turn to an even one. -/
theorem nextTurnOdd_of_turn {ticks : UInt32} (turn : ticks.toNat % 3 = 0) :
    nextTurnOdd (ticks + 1) = !nextTurnOdd ticks := by
  have bound := ticks.toNat_lt
  have next : (ticks + 1).toNat = (ticks.toNat + 1) % 2 ^ 32 := UInt32.toNat_add ticks 1
  have here : 2 * ticks.toNat % 3 = 0 := by omega
  have other : ((ticks + 1).toNat + 2 * (ticks + 1).toNat % 3) % 2
      = 1 - (ticks.toNat + 2 * ticks.toNat % 3) % 2 := by
    rw [next, here]
    by_cases last : ticks.toNat + 1 = 2 ^ 32
    · -- the last count is odd and the next turn comes right after it, at zero
      rw [last]
      omega
    · have whole : (ticks.toNat + 1) % 2 ^ 32 = ticks.toNat + 1 := Nat.mod_eq_of_lt (by omega)
      have later : 2 * (ticks.toNat + 1) % 3 = 2 := by omega
      rw [whole, later]
      omega
  rw [nextTurnOdd, nextTurnOdd, other]
  rcases Nat.mod_two_eq_zero_or_one (ticks.toNat + 2 * ticks.toNat % 3) with even | odd
  · rw [even]
    rfl
  · rw [odd]
    rfl

/-- In a turn the count says itself whether it is odd. -/
theorem nextTurnOdd_here {ticks : UInt32} (turn : ticks.toNat % 3 = 0) :
    nextTurnOdd ticks = (ticks % 2 == 1) := by
  have same : (ticks.toNat + 2 * ticks.toNat % 3) % 2 = (ticks % 2).toNat := by
    rw [UInt32.toNat_mod]
    change _ = ticks.toNat % 2
    omega
  rw [nextTurnOdd, same, Bool.eq_iff_iff, beq_iff_eq, beq_iff_eq, ← UInt32.toNat_inj]
  rfl

/-- What the engine makes of its own state and of sprite memory in an odd or an even turn. -/
inductive EngineTurn (transfer : OamTransfer) (oam : Memory 256) :
    Bool → Turn → OamTransfer → Memory 256 → Prop where
  /-- A waiting engine waits until after an odd turn. -/
  | wait (idle : transfer.idle = true) (odd : Bool) :
    EngineTurn transfer oam odd .wait { transfer with idle := !odd } oam
  /-- In an even turn a byte is read and held. -/
  | read (busy : transfer.idle = false) (value : UInt8) :
    EngineTurn transfer oam false (.read (wordOf transfer.cursor transfer.page) value)
      { transfer with latch := value } oam
  /-- In an odd turn the byte is stored, and the transfer ends when the cursor comes round. -/
  | store (busy : transfer.idle = false) :
    EngineTurn transfer oam true (.store transfer.cursor transfer.latch)
      { transfer with
        cursor := transfer.cursor + 1
        idle := transfer.cursor + 1 == 0
        active := transfer.active && !(transfer.cursor + 1 == 0) }
      (oam.write transfer.cursor.toNat transfer.latch)

/-- A cycle of a transfer is a turn of the engine. -/
theorem engineTurn_transferCycle (bus : Bus) :
    EngineTurn bus.transfer bus.ppu.oam (bus.ticks % 2 == 1) bus.transferTurn
      (transferCycle bus).transfer (transferCycle bus).ppu.oam := by
  cases waits : bus.transfer.idle with
  | true =>
    rw [Bus.transferTurn_of_idle waits, transferCycle_of_idle waits]
    exact .wait waits _
  | false =>
    by_cases odd : bus.ticks % 2 = 1
    · rw [Bus.transferTurn_of_odd waits odd, transferCycle_of_odd waits odd, beq_iff_eq.2 odd]
      exact .store waits
    · have kept := bus.progress_read (wordOf bus.transfer.cursor bus.transfer.page)
      have transfer := congrArg Progress.transfer kept
      have oam := congrArg Progress.oam kept
      simp only [Bus.progress] at transfer oam
      rw [Bus.transferTurn_of_even waits odd, transferCycle_of_even waits odd,
        beq_eq_false_iff_ne.2 odd]
      simp only [transfer, oam]
      exact .read waits _

/-- The engine, sprite memory and the parity of the next turn at a point of a transfer. -/
structure At (machine : Machine) (transfer : OamTransfer) (oam : Memory 256) (odd : Bool) :
    Prop where
  /-- The engine. -/
  transfer : machine.bus.transfer = transfer
  /-- Sprite memory. -/
  oam : machine.bus.ppu.oam = oam
  /-- Whether the next turn is odd. -/
  odd : nextTurnOdd machine.bus.ticks = odd

section Ticks

variable {machine : Machine} {transfer : OamTransfer} {oam : Memory 256} {odd : Bool}

/-- The point of a transfer is a matter of its progress. -/
theorem at_of_progress {other : Machine} {ticks : UInt32} (here : machine.At transfer oam odd)
    (same : other.bus.progress = { machine.bus.progress with ticks := ticks })
    (next : nextTurnOdd ticks = odd) : other.At transfer oam odd := by
  have otherTransfer : other.bus.transfer = machine.bus.transfer :=
    congrArg Progress.transfer same
  have otherOam : other.bus.ppu.oam = machine.bus.ppu.oam := congrArg Progress.oam same
  have otherTicks : other.bus.ticks = ticks := congrArg Progress.ticks same
  exact ⟨otherTransfer.trans here.transfer, otherOam.trans here.oam, by rw [otherTicks, next]⟩

/-- A tick without a turn leaves a transfer where it is. -/
theorem At.tick_of_no_turn (here : machine.At transfer oam odd)
    (none : machine.turnTaken? = none) : machine.tick.2.At transfer oam odd := by
  have between : machine.bus.ticks.toNat % 3 ≠ 0 := by
    intro multiple
    have some := machine.turnTaken?_isSome_iff.2 multiple
    rw [none] at some
    cases some
  have clocked := machine.progress_clockPicture
  have moved := machine.progress_tick
  rw [turnTaken?] at none
  generalize machine.tick.2 = next at moved ⊢
  generalize machine.clockPicture.2 = middle at clocked moved none
  have ticks : middle.bus.ticks = machine.bus.ticks := congrArg Progress.ticks clocked
  rw [turn_of_none none, clocked, ticks] at moved
  exact at_of_progress here moved ((nextTurnOdd_of_no_turn between).trans here.odd)

/-- A tick with a turn is a turn of the engine. -/
theorem At.tick_of_turn (here : machine.At transfer oam odd) (active : transfer.active = true)
    {spent : Turn} (taken : machine.turnTaken? = some spent) :
    ∃ transfer' oam', EngineTurn transfer oam odd spent transfer' oam' ∧
      machine.tick.2.At transfer' oam' (!odd) := by
  have turn : machine.bus.ticks.toNat % 3 = 0 := by
    apply machine.turnTaken?_isSome_iff.1
    rw [taken]
    rfl
  have clocked := machine.progress_clockPicture
  have moved := machine.progress_tick
  have counted := machine.ticks_tick
  rw [turnTaken?] at taken
  generalize machine.tick.2 = next at moved counted ⊢
  generalize machine.clockPicture.2 = middle at clocked moved taken
  have sameTransfer : middle.bus.transfer = transfer :=
    (congrArg Progress.transfer clocked).trans here.transfer
  have sameOam : middle.bus.ppu.oam = oam := (congrArg Progress.oam clocked).trans here.oam
  have sameTicks : middle.bus.ticks = machine.bus.ticks := congrArg Progress.ticks clocked
  have transferring : middle.bus.transferring = true := by
    rw [Bus.transferring, sameTransfer]
    exact active
  obtain ⟨rfl, cycled⟩ := turn_of_transferring taken transferring
  have engine := engineTurn_transferCycle middle.bus
  rw [sameTransfer, sameOam, sameTicks, ← nextTurnOdd_here turn, here.odd] at engine
  rw [cycled] at moved
  dsimp only at moved
  rw [ticks_transferCycle, sameTicks] at moved
  exact ⟨_, _, engine, congrArg Progress.transfer moved, congrArg Progress.oam moved,
    by rw [counted, nextTurnOdd_of_turn turn, here.odd]⟩

end Ticks

/-- Ticks in which the transfer goes on, the turns in them, and the machine after them. -/
def Transfers (machine : Machine) (turns : List Turn) (last : Machine) : Prop :=
  ∃ count, machine.ticked count = last ∧ machine.turns count = turns ∧
    ∀ earlier < count, (machine.ticked earlier).bus.transferring = true

/-- Before the next tick no turn has been taken. -/
theorem Transfers.refl (machine : Machine) : machine.Transfers [] machine :=
  ⟨0, rfl, rfl, fun earlier before => absurd before (Nat.not_lt_zero earlier)⟩

/-- A tick before a run within a transfer makes a longer one. -/
theorem Transfers.tick {machine last : Machine} {turns : List Turn}
    (active : machine.bus.transferring = true) (rest : machine.tick.2.Transfers turns last) :
    machine.Transfers (machine.turnTaken?.toList ++ turns) last := by
  obtain ⟨count, ends, taken, during⟩ := rest
  refine ⟨count + 1, ends, by rw [Machine.turns, taken], ?_⟩
  intro earlier before
  cases earlier with
  | zero => exact active
  | succ earlier => exact during earlier (Nat.lt_of_succ_lt_succ before)

/-- Two runs within a transfer make one. -/
theorem Transfers.trans {first middle last : Machine} {turns later : List Turn}
    (left : first.Transfers turns middle) (right : middle.Transfers later last) :
    first.Transfers (turns ++ later) last := by
  obtain ⟨count, ends, taken, during⟩ := left
  induction count generalizing first turns with
  | zero =>
    obtain rfl : first = middle := ends
    obtain rfl : [] = turns := taken
    exact right
  | succ count ih =>
    have rest := ih ends rfl fun earlier before =>
      during (earlier + 1) (Nat.succ_lt_succ before)
    rw [← taken, Machine.turns, List.append_assoc]
    exact Transfers.tick (during 0 (Nat.succ_pos count)) rest

section Turns

variable {machine : Machine} {transfer : OamTransfer} {oam : Memory 256} {odd : Bool}

/-- A machine whose engine is active is transferring. -/
theorem At.transferring (here : machine.At transfer oam odd) (active : transfer.active = true) :
    machine.bus.transferring = true := by
  rw [Bus.transferring, here.transfer]
  exact active

/-- Ticks without a turn leave a transfer where it is. -/
theorem At.until_turn {first : Nat} (here : machine.At transfer oam odd)
    (active : transfer.active = true) (quiet : machine.turns first = []) :
    machine.Transfers [] (machine.ticked first) ∧
      (machine.ticked first).At transfer oam odd := by
  induction first generalizing machine with
  | zero => exact ⟨Transfers.refl machine, here⟩
  | succ first ih =>
    obtain ⟨now, later⟩ := List.append_eq_nil_iff.1 quiet
    have none : machine.turnTaken? = none := Option.toList_eq_nil_iff.1 now
    obtain ⟨rest, there⟩ := ih (here.tick_of_no_turn none) later
    have run := Transfers.tick (here.transferring active) rest
    rw [none] at run
    exact ⟨run, there⟩

/-- The next turn is one of the engine. -/
theorem At.next_turn (here : machine.At transfer oam odd) (active : transfer.active = true) :
    ∃ last spent transfer' oam', machine.Transfers [spent] last ∧
      EngineTurn transfer oam odd spent transfer' oam' ∧ last.At transfer' oam' (!odd) := by
  obtain ⟨first, spent, quiet, taken⟩ := machine.exists_next_turn
  obtain ⟨before, still⟩ := here.until_turn active quiet
  obtain ⟨transfer', oam', engine, there⟩ := still.tick_of_turn active taken
  have turn := Transfers.tick (still.transferring active) (Transfers.refl _)
  rw [taken] at turn
  exact ⟨_, spent, transfer', oam', before.trans turn, engine, there⟩

/-- A waiting engine that is to be odd in its turn starts to work after it. -/
theorem At.wait_odd (here : machine.At transfer oam true) (active : transfer.active = true)
    (idle : transfer.idle = true) :
    ∃ last, machine.Transfers [.wait] last ∧ last.At { transfer with idle := false } oam false := by
  obtain ⟨last, spent, transfer', oam', run, engine, there⟩ := here.next_turn active
  cases engine with
  | wait => exact ⟨last, run, there⟩
  | store busy => exact absurd (idle.symm.trans busy) Bool.noConfusion

/-- A waiting engine that is to be even in its turn waits on. -/
theorem At.wait_even (here : machine.At transfer oam false) (active : transfer.active = true)
    (idle : transfer.idle = true) :
    ∃ last, machine.Transfers [.wait] last ∧ last.At { transfer with idle := true } oam true := by
  obtain ⟨last, spent, transfer', oam', run, engine, there⟩ := here.next_turn active
  cases engine with
  | wait => exact ⟨last, run, there⟩
  | read busy => exact absurd (idle.symm.trans busy) Bool.noConfusion

/-- A working engine reads a byte in its even turn and stores it in the odd turn after that. -/
theorem At.byte (here : machine.At transfer oam false) (active : transfer.active = true)
    (busy : transfer.idle = false) :
    ∃ last value,
      machine.Transfers
        [.read (wordOf transfer.cursor transfer.page) value, .store transfer.cursor value] last ∧
      last.At
        { transfer with
          latch := value
          cursor := transfer.cursor + 1
          idle := transfer.cursor + 1 == 0
          active := !(transfer.cursor + 1 == 0) }
        (oam.write transfer.cursor.toNat value) false := by
  obtain ⟨middle, spent, held, oam', reads, engine, between⟩ := here.next_turn active
  cases engine with
  | wait idle => exact absurd (idle.symm.trans busy) Bool.noConfusion
  | read _ value =>
    obtain ⟨last, spent, transfer', oam', stores, engine, there⟩ := between.next_turn active
    cases engine with
    | wait idle => exact absurd (idle.symm.trans busy) Bool.noConfusion
    | store =>
      have done := reads.trans stores
      rw [active, Bool.true_and] at there
      exact ⟨last, value, done, there⟩

end Turns

/-- The turns that move the first bytes of a page. -/
def pageTurns (page : UInt8) (values : List UInt8) : List Turn :=
  values.zipIdx.flatMap fun (value, index) =>
    [.read (wordOf index.toUInt8 page) value, .store index.toUInt8 value]

/-- One more byte is one more read and one more store. -/
theorem pageTurns_append (page : UInt8) (values : List UInt8) (value : UInt8) :
    pageTurns page (values ++ [value])
      = pageTurns page values ++ [.read (wordOf values.length.toUInt8 page) value,
          .store values.length.toUInt8 value] := by
  simp [pageTurns, List.zipIdx_append]

/-- Every byte takes two turns. -/
theorem length_pageTurns (page : UInt8) (values : List UInt8) :
    (pageTurns page values).length = 2 * values.length := by
  simp only [pageTurns, List.length_flatMap, List.length_cons, List.length_nil, List.map_const',
    List.length_zipIdx, List.sum_replicate_nat]
  omega

/-- From its first even turn on the engine moves one byte after the other. After each of them
sprite memory holds the bytes so far, and after the last one of the page the engine stops. -/
theorem At.bytes {machine : Machine} {transfer : OamTransfer} {oam : Memory 256}
    (here : machine.At transfer oam false) (active : transfer.active = true)
    (busy : transfer.idle = false) (fresh : transfer.cursor = 0) (count : Nat)
    (inside : count ≤ 256) :
    ∃ last values transfer' oam', values.length = count ∧
      machine.Transfers (pageTurns transfer.page values) last ∧ last.At transfer' oam' false ∧
      transfer'.page = transfer.page ∧ transfer'.cursor = count.toUInt8 ∧
      transfer'.idle = decide (count = 256) ∧ transfer'.active = decide (count < 256) ∧
      ∀ (index : Nat) (moved : index < values.length), oam'.read index = values[index] := by
  induction count with
  | zero =>
    refine ⟨machine, [], transfer, oam, rfl, Transfers.refl machine, here, rfl, fresh, busy,
      active, ?_⟩
    intro index moved
    exact absurd moved (Nat.not_lt_zero index)
  | succ count ih =>
    obtain ⟨middle, values, halfway, oam', length, run, there, page, cursor, idle, going, held⟩ :=
      ih (by omega)
    have unfinished : decide (count < 256) = true := decide_eq_true (by omega)
    have working : decide (count = 256) = false := decide_eq_false (by omega)
    obtain ⟨last, value, moved, ending⟩ :=
      there.byte (going.trans unfinished) (idle.trans working)
    have place : halfway.cursor.toNat = count := by
      rw [cursor]
      exact Nat.mod_eq_of_lt (by omega)
    have next : halfway.cursor + 1 = (count + 1).toUInt8 := by
      rw [cursor]
      apply UInt8.toNat_inj.1
      rw [UInt8.toNat_add]
      change (count % 2 ^ 8 + 1) % 2 ^ 8 = (count + 1) % 2 ^ 8
      omega
    have round : (halfway.cursor + 1 == 0) = decide (count + 1 = 256) := by
      rw [next, Bool.eq_iff_iff, beq_iff_eq, decide_eq_true_iff, ← UInt8.toNat_inj]
      change (count + 1) % 2 ^ 8 = 0 ↔ count + 1 = 256
      omega
    have stops : (!(halfway.cursor + 1 == 0)) = decide (count + 1 < 256) := by
      rw [round, Bool.eq_iff_iff, Bool.not_eq_true', decide_eq_false_iff_not, decide_eq_true_iff]
      omega
    -- the byte goes behind those before it, in the run as in sprite memory
    have whole := run.trans moved
    rw [page, cursor, ← length, ← pageTurns_append] at whole
    refine ⟨last, values ++ [value], _, _, by simp [length], whole, ending, page, next, round,
      stops, ?_⟩
    intro index inRange
    rw [List.length_append, List.length_singleton, length] at inRange
    by_cases latest : index = count
    · subst latest
      rw [Memory.read_write_of_same_cell _ _ (by rw [place])]
      simp [length]
    · have earlier : index < values.length := by omega
      have apart : halfway.cursor.toNat % 256 ≠ index % 256 := by
        rw [place]
        omega
      rw [Memory.read_write_of_other_cell _ _ apart, held index earlier,
        List.getElem_append_left earlier]

/-- A waiting engine works from the first even turn after an odd one on. -/
theorem At.waits {machine : Machine} {transfer : OamTransfer} {oam : Memory 256} {odd : Bool}
    (here : machine.At transfer oam odd) (active : transfer.active = true)
    (idle : transfer.idle = true) :
    ∃ last, machine.Transfers (List.replicate (if odd then 1 else 2) .wait) last ∧
      last.At { transfer with idle := false } oam false := by
  cases odd with
  | true => exact here.wait_odd active idle
  | false =>
    obtain ⟨middle, first, between⟩ := here.wait_even active idle
    obtain ⟨last, second, there⟩ := between.wait_odd active rfl
    exact ⟨last, first.trans second, there⟩

/-- A waiting engine at the start of a page waits once or twice, moves the page, and stops. -/
theorem At.page {machine : Machine} {transfer : OamTransfer} {oam : Memory 256} {odd : Bool}
    (here : machine.At transfer oam odd) (active : transfer.active = true)
    (idle : transfer.idle = true) (fresh : transfer.cursor = 0) :
    ∃ last values, values.length = 256 ∧
      machine.Transfers
        (List.replicate (if odd then 1 else 2) .wait ++ pageTurns transfer.page values) last ∧
      last.bus.transferring = false ∧
      ∀ (index : Nat) (moved : index < values.length),
        last.bus.ppu.oam.read index = values[index] := by
  obtain ⟨middle, waits, working⟩ := here.waits active idle
  obtain ⟨last, values, ended, oam', length, moves, there, -, -, -, stopped, held⟩ :=
    working.bytes active rfl fresh 256 (Nat.le_refl 256)
  refine ⟨last, values, length, waits.trans moves, ?_, ?_⟩
  · rw [Bus.transferring, there.transfer]
    exact stopped
  · rw [there.oam]
    exact held

end Machine

end Nes
