import Nes.Proofs.Machine.Progress

/-!
# The clock of the processor

Every tick adds one to a 32-bit count, and the ticks whose count is a multiple of three are the
turns of the processor (`Machine.turnTaken?`). Since 2³² is no multiple of three, the last turn
before the count wraps and the first one after it are neighbours. The number of turns in any run is
worked out here across any number of wraps.
-/
namespace Nes

/-- What the turn of the processor is spent on. -/
inductive Turn where
  /-- The processor takes a cycle. -/
  | step
  /-- The transfer engine waits. -/
  | wait
  /-- The transfer engine reads an address and is given a byte. -/
  | read (address : UInt16) (value : UInt8)
  /-- The transfer engine stores a byte in sprite memory. -/
  | store (index value : UInt8)
deriving DecidableEq

/-- What the transfer engine spends a turn on. -/
def Bus.transferTurn (bus : Bus) : Turn :=
  match (bus.transfer.advance (bus.ticks % 2 == 1)).1 with
  | .wait => .wait
  | .read address => .read address (bus.read address).1
  | .store index value => .store index value

section TransferTurn

variable {bus : Bus}

/-- An engine that waits spends its turn so. -/
theorem Bus.transferTurn_of_idle (idle : bus.transfer.idle = true) :
    bus.transferTurn = .wait := by
  rw [transferTurn, OamTransfer.advance, if_pos idle]

/-- In an odd turn a working engine stores the byte that it holds. -/
theorem Bus.transferTurn_of_odd (busy : bus.transfer.idle = false) (odd : bus.ticks % 2 = 1) :
    bus.transferTurn = .store bus.transfer.cursor bus.transfer.latch := by
  rw [transferTurn, OamTransfer.advance, if_neg (Bool.eq_false_iff.1 busy),
    if_pos (beq_iff_eq.2 odd)]

/-- In an even turn a working engine reads the next byte of its page. -/
theorem Bus.transferTurn_of_even (busy : bus.transfer.idle = false)
    (even : ¬bus.ticks % 2 = 1) :
    bus.transferTurn = .read (wordOf bus.transfer.cursor bus.transfer.page)
      (bus.read (wordOf bus.transfer.cursor bus.transfer.page)).1 := by
  rw [transferTurn, OamTransfer.advance, if_neg (Bool.eq_false_iff.1 busy),
    if_neg fun odd => even (beq_iff_eq.1 odd)]

end TransferTurn

/-- Nothing that the processor does moves the count of ticks. -/
theorem Bus.ticks_invariant (count : UInt32) :
    Cpu.Invariant (fun bus : Bus => bus.ticks = count) fun _ => True where
  read {space} address same := by
    have effect := space.readEffect_read address
    change (space.read address).2.ticks = count
    generalize (space.read address).2 = after at effect ⊢
    cases effect <;> exact same
  write {space} address value _ same := by
    have effect := space.writeEffect_write address value
    change (space.write address value).ticks = count
    have offered : (space.offer address value).ticks = count := same
    generalize space.write address value = after at effect ⊢
    generalize space.offer address value = before at effect offered
    cases effect <;> exact offered

namespace Machine

/-- The turn that the processor has at this point of a tick, if the tick has one. -/
def turnHere? (machine : Machine) : Option Turn :=
  if machine.isProcessorTick then
    some (if machine.bus.transferring then machine.bus.transferTurn else .step)
  else none

/-- A tick without a turn leaves the processor and the transfer engine alone. -/
theorem turn_of_none {machine : Machine} (none : machine.turnHere? = none) :
    machine.turn = machine := by
  rw [turnHere?] at none
  rw [turn]
  split
  case isTrue here =>
    rw [if_pos here] at none
    cases none
  case isFalse => rfl

/-- A turn during a transfer is spent by the transfer engine, and the processor stands still. -/
theorem turn_of_transferring {machine : Machine} {spent : Turn}
    (taken : machine.turnHere? = some spent) (active : machine.bus.transferring = true) :
    spent = machine.bus.transferTurn ∧
      machine.turn = ⟨machine.cpu, transferCycle machine.bus⟩ := by
  rw [turnHere?] at taken
  rw [turn]
  split
  case isTrue here =>
    rw [if_pos here, if_pos active] at taken
    rw [processorCycle, if_pos active]
    exact ⟨(Option.some.inj taken).symm, rfl⟩
  case isFalse elsewhere =>
    rw [if_neg elsewhere] at taken
    cases taken

/-- The turn of the processor in the next tick, if it has one. -/
def turnTaken? (machine : Machine) : Option Turn := machine.clockPicture.2.turnHere?

/-- The machine after a number of ticks. -/
def ticked (machine : Machine) : Nat → Machine
  | 0 => machine
  | count + 1 => machine.tick.2.ticked count

/-- The turns of the processor in a number of ticks, in order. -/
def turns (machine : Machine) : Nat → List Turn
  | 0 => []
  | count + 1 => machine.turnTaken?.toList ++ machine.tick.2.turns count

/-- A cycle of a transfer does not count a tick. -/
theorem ticks_transferCycle (bus : Bus) : (transferCycle bus).ticks = bus.ticks := by
  have effect := transferEffect_transferCycle bus
  generalize transferCycle bus = after at effect ⊢
  cases effect with
  | wait transfer => rfl
  | read address transfer => exact (Bus.ticks_invariant bus.ticks).read address rfl
  | store index value transfer => rfl

/-- The turn of the processor does not count a tick either. -/
theorem ticks_turn (machine : Machine) : machine.turn.bus.ticks = machine.bus.ticks := by
  rw [turn, processorCycle]
  split
  · split
    · exact ticks_transferCycle machine.bus
    · exact (Bus.ticks_invariant machine.bus.ticks).step rfl (fun _ => trivial) machine.cpu
  · rfl

/-- A tick adds one to the count. -/
theorem ticks_tick (machine : Machine) : machine.tick.2.bus.ticks = machine.bus.ticks + 1 := by
  have progress := congrArg Progress.ticks machine.progress_tick
  change machine.tick.2.bus.ticks = machine.clockPicture.2.turn.bus.ticks + 1 at progress
  rw [progress, ticks_turn, clockPicture_eq]

/-- The processor has the ticks whose count is a multiple of three. -/
theorem turnHere?_isSome_iff (machine : Machine) :
    machine.turnHere?.isSome = true ↔ machine.bus.ticks.toNat % 3 = 0 := by
  have third : machine.isProcessorTick = true ↔ machine.bus.ticks.toNat % 3 = 0 := by
    rw [isProcessorTick, beq_iff_eq, ← UInt32.toNat_inj, UInt32.toNat_mod]
    rfl
  rw [turnHere?]
  by_cases here : machine.isProcessorTick = true
  · rw [if_pos here]
    exact ⟨fun _ => third.1 here, fun _ => rfl⟩
  · rw [if_neg here]
    exact ⟨fun impossible => Bool.noConfusion impossible,
      fun multiple => absurd (third.2 multiple) here⟩

/-- A tick has a turn where the count is a multiple of three. -/
theorem turnTaken?_isSome_iff (machine : Machine) :
    machine.turnTaken?.isSome = true ↔ machine.bus.ticks.toNat % 3 = 0 := by
  have clocked := machine.clockPicture.2.turnHere?_isSome_iff
  rw [← turnTaken?] at clocked
  rw [clocked, clockPicture_eq]

/-- The next turn comes within three ticks. -/
theorem exists_next_turn (machine : Machine) :
    ∃ first spent, machine.turns first = [] ∧
      (machine.ticked first).turnTaken? = some spent := by
  have within : ∀ distance, distance < 3 → ∀ machine : Machine,
      (machine.bus.ticks.toNat + distance) % 3 = 0 →
      ∃ first spent, machine.turns first = [] ∧
        (machine.ticked first).turnTaken? = some spent := by
    -- the distance is what the count lacks to a multiple of three, so it does not wrap before
    intro distance
    induction distance with
    | zero =>
      intro _ machine turn
      obtain ⟨spent, taken⟩ := Option.isSome_iff_exists.1 (machine.turnTaken?_isSome_iff.2 turn)
      exact ⟨0, spent, rfl, taken⟩
    | succ distance ih =>
      intro near machine turn
      have between : machine.bus.ticks.toNat % 3 ≠ 0 := by omega
      have none : machine.turnTaken? = none := by
        apply Option.not_isSome_iff_eq_none.1
        exact fun some => between (machine.turnTaken?_isSome_iff.1 some)
      have bound := machine.bus.ticks.toNat_lt
      have counted : machine.tick.2.bus.ticks.toNat = machine.bus.ticks.toNat + 1 := by
        rw [machine.ticks_tick, UInt32.toNat_add, UInt32.toNat_one]
        exact Nat.mod_eq_of_lt (by omega)
      have closer : (machine.tick.2.bus.ticks.toNat + distance) % 3 = 0 := by
        rw [counted]
        omega
      obtain ⟨first, spent, quiet, taken⟩ := ih (by omega) machine.tick.2 closer
      exact ⟨first + 1, spent, by rw [turns, none, quiet, Option.toList_none, List.nil_append],
        taken⟩
  exact within (2 * machine.bus.ticks.toNat % 3) (Nat.mod_lt _ (by decide)) machine (by omega)

/-- The turns of the first ticks after a reset: a whole run of the count has one turn more than
a third of its ticks, rounded down. -/
def turnsSinceReset (time : Nat) : Nat :=
  time / UInt32.size * 1431655766 + (time % UInt32.size + 2) / 3

/-- One more tick is one more turn where the count is a multiple of three. -/
theorem turnsSinceReset_succ (time : Nat) :
    turnsSinceReset (time + 1)
      = turnsSinceReset time + if time % UInt32.size % 3 = 0 then 1 else 0 := by
  rw [turnsSinceReset, turnsSinceReset]
  simp only [UInt32.size]
  split <;> omega

/-- The number of turns in any run is the difference of the turns since a reset, for any time that
the count may stand for. -/
theorem length_turns_add (machine : Machine) (count time : Nat)
    (now : time % UInt32.size = machine.bus.ticks.toNat) :
    (machine.turns count).length + turnsSinceReset time = turnsSinceReset (time + count) := by
  induction count generalizing machine time with
  | zero => simp [turns]
  | succ count ih =>
    have later : (time + 1) % UInt32.size = machine.tick.2.bus.ticks.toNat := by
      rw [ticks_tick, UInt32.toNat_add, ← now]
      change _ = (time % UInt32.size + 1) % UInt32.size
      simp only [UInt32.size]
      omega
    have rest := ih machine.tick.2 (time + 1) later
    -- the time goes on where the count wraps, and the turns since a reset know of the wrap
    have here := turnsSinceReset_succ time
    have turn := machine.turnTaken?_isSome_iff
    rw [← now] at turn
    have shifted : time + (count + 1) = time + 1 + count := by omega
    rw [turns, List.length_append, shifted]
    cases taken : machine.turnTaken? with
    | none =>
      rw [taken] at turn
      rw [if_neg fun multiple => Bool.noConfusion (turn.2 multiple)] at here
      rw [Option.toList_none, List.length_nil]
      omega
    | some spent =>
      rw [taken] at turn
      rw [if_pos (turn.1 rfl)] at here
      rw [Option.toList_some, List.length_singleton]
      omega

/-- The number of turns in a run that starts at a count. -/
theorem length_turns (machine : Machine) (count : Nat) :
    (machine.turns count).length
      = turnsSinceReset (machine.bus.ticks.toNat + count)
        - turnsSinceReset machine.bus.ticks.toNat := by
  have bound := machine.bus.ticks.toNat_lt
  have difference := machine.length_turns_add count machine.bus.ticks.toNat
    (Nat.mod_eq_of_lt bound)
  omega

/-- A reset starts the count of ticks anew. -/
theorem ticks_reset (machine : Machine) : machine.reset.bus.ticks = 0 := by
  simp only [reset]

/-- The number of turns in a run from a reset. -/
theorem length_turns_reset (machine : Machine) (count : Nat) :
    (machine.reset.turns count).length = turnsSinceReset count := by
  have whole := machine.reset.length_turns count
  rw [ticks_reset] at whole
  change _ = turnsSinceReset (0 + count) - 0 at whole
  rw [whole, Nat.zero_add, Nat.sub_zero]

/-- Three ticks in a row have exactly one turn, or two if the count wraps between two of them. From
a reset, a number of ticks has a third as many turns, rounded up, for as long as the count has not
wrapped; after that, only in every third tick of the second run through the count. -/
theorem turns_of_clock (machine : Machine) (count : Nat) :
    (machine.turns 3).length = (if machine.bus.ticks.toNat < UInt32.size - 2 then 1 else 2) ∧
      (machine.reset.turns count).length
        = count / UInt32.size * 1431655766 + (count % UInt32.size + 2) / 3 ∧
      ((machine.reset.turns count).length = (count + 2) / 3
        ↔ count < UInt32.size ∨ count < 2 * UInt32.size ∧ count % 3 = 1) := by
  refine ⟨?_, length_turns_reset machine count, ?_⟩
  · have bound := machine.bus.ticks.toNat_lt
    rw [length_turns, turnsSinceReset, turnsSinceReset]
    simp only [UInt32.size]
    split <;> omega
  · rw [length_turns_reset, turnsSinceReset]
    simp only [UInt32.size]
    omega

end Machine

end Nes
