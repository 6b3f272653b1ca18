import Mathlib.Data.List.Induction
import Mathlib.Data.Nat.ModEq
import Nes.Proofs.Cartridge.BankWindows

/-!
# The line counter of board 4

Four writes set the counter up: the number of lines, an order to start anew, and interrupts off or
on. From there the counter runs down from that number to zero and starts anew in the line after, so
that its period is one line longer than the number. What carries the proofs is that the counter and
the count of lines together are a multiple of the period (`Mmc3.Counting`). The request for an
interrupt remembers a line that raised it until it is taken back (`Mmc3.raises_of_lines`).
-/
namespace Nes.Mmc3

/-- An action that is not about the set-up of the counter: a line, an acknowledgement, or a write
below `C000`. -/
def SparesCounter : Board.Action → Prop
  | .write address _ => address < 0xC000
  | .countLine | .acknowledge => True
  | .reset => False

instance : DecidablePred SparesCounter
  | .write address _ => inferInstanceAs (Decidable (address < 0xC000))
  | .countLine | .acknowledge => .isTrue trivial
  | .reset => .isFalse id

/-- The writes that set the counter up. Interrupts are turned off, and on again if they are wanted.
Only the value of the first write has a meaning. -/
def setCounter (lines restart off last : UInt8) (enabled : Bool) : List Board.Action := [
  .write 0xC000 lines, .write 0xC001 restart, .write 0xE000 off,
  .write (if enabled then 0xE001 else 0xE000) last]

/-- Whether a line counted now raises the interrupt, be there a request already or not. -/
def raises (board : Mmc3) : Bool := board.acknowledge.countLine.irqPending

/-- The counter and its interrupt. -/
structure LineCounter where
  /-- An interrupt is pending. -/
  pending : Bool
  /-- The counter may raise interrupts. -/
  enabled : Bool
  /-- Lines until the next interrupt. -/
  counter : UInt16
  /-- What the counter starts from. -/
  reload : UInt16

/-- The part of a board that counts lines. -/
def lineCounter (board : Mmc3) : LineCounter :=
  ⟨board.irqPending, board.irqEnabled, board.irqCounter, board.irqReload⟩

/-- The registers below `C000` are not those of the counter. -/
theorem lineCounter_write (board : Mmc3) {address : UInt16} (below : address < 0xC000)
    (value : UInt8) : (board.after (.write address value)).lineCounter = board.lineCounter := by
  rw [after, write]
  by_cases memory : inBoardMemory address = true
  · rw [if_pos memory]
    rfl
  rw [if_neg memory]
  by_cases space : inProgramSpace address = true
  · have lower : 0x8000 ≤ address.toNat := UInt16.le_iff_toNat_le.1 (of_decide_eq_true space)
    have upper : address.toNat < 0xC000 := UInt16.lt_iff_toNat_lt.1 below
    have fourteen : wordBit address 14 = false := by
      rw [wordBit, Nat.testBit_eq_decide_div_mod_eq, decide_eq_false_iff_not]
      omega
    rw [if_pos space, writeRegister, fourteen]
    rcases wordBit address 13 <;> rcases wordBit address 0 <;> rfl
  · rw [if_neg space]

/-- The counter is set up, and has counted a number of lines since. -/
structure Counting (lines : UInt8) (enabled : Bool) (counted : Nat) (board : Mmc3) : Prop where
  /-- The counter starts from the number of lines. -/
  reload : board.irqReload = lines.toUInt16
  /-- Interrupts are on or off. -/
  enabled_eq : board.irqEnabled = enabled
  /-- The counter never holds more than the number of lines. -/
  counter_le : board.irqCounter.toNat ≤ lines.toNat
  /-- The counter and the lines counted together are a multiple of the period. -/
  dvd : lines.toNat + 1 ∣ board.irqCounter.toNat + counted

section Counting

variable {lines : UInt8} {enabled : Bool} {counted : Nat} {board : Mmc3}

/-- Only the parts that count lines matter to the count. -/
theorem Counting.of_lineCounter (counting : Counting lines enabled counted board) {next : Mmc3}
    (same : next.lineCounter = board.lineCounter) : Counting lines enabled counted next := by
  have reload : next.irqReload = board.irqReload := congrArg LineCounter.reload same
  have allowed : next.irqEnabled = board.irqEnabled := congrArg LineCounter.enabled same
  have counter : next.irqCounter = board.irqCounter := congrArg LineCounter.counter same
  constructor
  case reload => exact reload.trans counting.reload
  case enabled_eq => exact allowed.trans counting.enabled_eq
  case counter_le =>
    rw [counter]
    exact counting.counter_le
  case dvd =>
    rw [counter]
    exact counting.dvd

/-- A line takes one off the counter, or starts it anew, which is one less than the period. -/
theorem Counting.countLine (counting : Counting lines enabled counted board) :
    Counting lines enabled (counted + 1) board.countLine := by
  obtain ⟨reload, enabled_eq, counter_le, dvd⟩ := counting
  have value : board.countLine.irqCounter
      = if board.irqCounter = 0 then board.irqReload else board.irqCounter - 1 := rfl
  by_cases exhausted : board.irqCounter = 0
  · have anew : board.countLine.irqCounter.toNat = lines.toNat := by
      rw [value, if_pos exhausted, reload, UInt8.toNat_toUInt16]
    constructor
    case reload => exact reload
    case enabled_eq => exact enabled_eq
    case counter_le => exact Nat.le_of_eq anew
    case dvd =>
      rw [exhausted, UInt16.toNat_zero, Nat.zero_add] at dvd
      have sum : lines.toNat + (counted + 1) = counted + (lines.toNat + 1) := by omega
      rw [anew, sum]
      exact Nat.dvd_add dvd (Nat.dvd_refl _)
  · have positive : 1 ≤ board.irqCounter.toNat :=
      Nat.pos_of_ne_zero fun zero => exhausted (UInt16.toNat_inj.1 zero)
    have less : board.countLine.irqCounter.toNat = board.irqCounter.toNat - 1 := by
      rw [value, if_neg exhausted]
      exact UInt16.toNat_sub_of_le _ _ (UInt16.le_iff_toNat_le.2 positive)
    constructor
    case reload => exact reload
    case enabled_eq => exact enabled_eq
    case counter_le => omega
    case dvd =>
      have sum : board.irqCounter.toNat - 1 + (counted + 1) = board.irqCounter.toNat + counted := by
        omega
      rw [less, sum]
      exact dvd

/-- The counter as a number: each line adds the number of lines, modulo the period. -/
theorem Counting.counter_eq (counting : Counting lines enabled counted board) :
    board.irqCounter.toNat = counted * lines.toNat % (lines.toNat + 1) := by
  have whole : counted * lines.toNat + counted ≡ 0 [MOD lines.toNat + 1] := by
    rw [← Nat.mul_succ]
    exact (Nat.modEq_zero_iff_dvd).2 (Nat.dvd_mul_left _ _)
  have sum : board.irqCounter.toNat + counted ≡ counted * lines.toNat + counted
      [MOD lines.toNat + 1] := ((Nat.modEq_zero_iff_dvd).2 counting.dvd).trans whole.symm
  have same := Nat.ModEq.add_right_cancel' counted sum
  rw [← Nat.mod_eq_of_lt (Nat.lt_succ_of_le counting.counter_le)]
  exact same

/-- The counter is exhausted where the lines counted are a multiple of the period. -/
theorem Counting.counter_eq_zero_iff (counting : Counting lines enabled counted board) :
    board.irqCounter = 0 ↔ lines.toNat + 1 ∣ counted := by
  rw [← UInt16.toNat_inj, UInt16.toNat_zero]
  constructor
  · intro zero
    have dvd := counting.dvd
    rw [zero, Nat.zero_add] at dvd
    exact dvd
  · intro multiple
    have dvd := (Nat.dvd_add_left multiple).1 counting.dvd
    exact Nat.eq_zero_of_dvd_of_lt dvd (Nat.lt_succ_of_le counting.counter_le)

/-- The next line raises the interrupt if it completes a period and interrupts are on. -/
theorem Counting.raises_iff (counting : Counting lines enabled counted board) :
    board.raises = true ↔ enabled = true ∧ lines.toNat + 1 ∣ counted + 1 := by
  have raised : board.raises = (board.countLine.irqCounter == 0 && board.irqEnabled) := rfl
  rw [raised, Bool.and_eq_true, beq_iff_eq, counting.countLine.counter_eq_zero_iff,
    counting.enabled_eq]
  exact and_comm

/-- The set-up works from any state of the board, and leaves no request. -/
theorem counting_setCounter (start : Mmc3) (lines restart off last : UInt8) (enabled : Bool) :
    let board := start.run (setCounter lines restart off last enabled)
    Counting lines enabled 0 board ∧ board.irqPending = false := by
  have known : (start.run (setCounter lines restart off last enabled)).lineCounter
      = ⟨false, enabled, 0, lines.toUInt16⟩ := by
    cases enabled <;> rfl
  intro board
  have counter : board.irqCounter.toNat = 0 :=
    congrArg UInt16.toNat (congrArg LineCounter.counter known)
  refine ⟨?_, congrArg LineCounter.pending known⟩
  constructor
  case reload => exact congrArg LineCounter.reload known
  case enabled_eq => exact congrArg LineCounter.enabled known
  case counter_le =>
    rw [counter]
    exact Nat.zero_le _
  case dvd =>
    rw [counter]
    exact Nat.dvd_zero _

end Counting

/-- The last action is done to the board that the others have left. -/
theorem run_concat (board : Mmc3) (actions : List Board.Action) (last : Board.Action) :
    board.run (actions ++ [last]) = (board.run actions).after last :=
  List.foldl_concat ..

/-- However else the board is used, its counter counts the lines. -/
theorem Counting.run {lines : UInt8} {enabled : Bool} {board : Mmc3}
    (counting : Counting lines enabled 0 board) {actions : List Board.Action}
    (spared : ∀ action ∈ actions, SparesCounter action) :
    Counting lines enabled (actions.count .countLine) (board.run actions) := by
  induction actions using List.reverseRecOn with
  | nil => exact counting
  | append_singleton actions last ih =>
    obtain ⟨before, lastSpared⟩ := List.forall_mem_append.1 spared
    have here := ih before
    rw [run_concat, List.count_append]
    cases last with
    | write address value =>
      have below : address < 0xC000 := lastSpared _ List.mem_cons_self
      exact here.of_lineCounter (lineCounter_write _ below value)
    | countLine => exact here.countLine
    | acknowledge => exact ⟨here.reload, here.enabled_eq, here.counter_le, here.dvd⟩
    | reset => exact (lastSpared _ List.mem_cons_self).elim

/-- A line among the actions meets a condition on those before it, and no acknowledgement
follows. -/
def OpenLine (holds : List Board.Action → Prop) (actions : List Board.Action) : Prop :=
  ∃ earlier later, actions = earlier ++ .countLine :: later ∧ Board.Action.acknowledge ∉ later ∧
    holds earlier

/-- Where one action is added, the line is that one or was there before. -/
theorem openLine_concat (holds : List Board.Action → Prop) (actions : List Board.Action)
    (last : Board.Action) :
    OpenLine holds (actions ++ [last]) ↔
      (last = .countLine ∧ holds actions) ∨ (last ≠ .acknowledge ∧ OpenLine holds actions) := by
  constructor
  · rintro ⟨earlier, later, split, noAcknowledge, holding⟩
    rcases List.eq_nil_or_concat' later with rfl | ⟨later, final, rfl⟩
    · obtain ⟨rfl, same⟩ := List.append_inj' split rfl
      exact .inl ⟨List.singleton_inj.1 same, holding⟩
    · rw [← List.cons_append, ← List.append_assoc] at split
      obtain ⟨rfl, same⟩ := List.append_inj' split rfl
      obtain rfl := List.singleton_inj.1 same
      rw [List.mem_append, not_or, List.mem_singleton] at noAcknowledge
      exact .inr ⟨Ne.symm noAcknowledge.2, earlier, later, rfl, noAcknowledge.1, holding⟩
  · rintro (⟨rfl, holding⟩ | ⟨other, earlier, later, rfl, noAcknowledge, holding⟩)
    · exact ⟨actions, [], rfl, List.not_mem_nil, holding⟩
    · refine ⟨earlier, later ++ [last], by simp, ?_, holding⟩
      rw [List.mem_append, not_or, List.mem_singleton]
      exact ⟨noAcknowledge, other.symm⟩

/-- A request is there just where a line raised it after the latest acknowledgement. -/
theorem irqPending_run_iff {board : Mmc3} (quiet : board.irqPending = false)
    {actions : List Board.Action} (spared : ∀ action ∈ actions, SparesCounter action) :
    (board.run actions).irqPending = true ↔
      OpenLine (fun earlier => (board.run earlier).raises = true) actions := by
  induction actions using List.reverseRecOn with
  | nil =>
    refine ⟨fun pending => absurd (quiet.symm.trans pending) Bool.noConfusion, ?_⟩
    rintro ⟨earlier, later, split, -⟩
    exact absurd split.symm (List.append_ne_nil_of_right_ne_nil _ (List.cons_ne_nil _ _))
  | append_singleton actions last ih =>
    obtain ⟨before, lastSpared⟩ := List.forall_mem_append.1 spared
    rw [openLine_concat, ← ih before, run_concat]
    cases last with
    | write address value =>
      have below : address < 0xC000 := lastSpared _ List.mem_cons_self
      have kept := congrArg LineCounter.pending ((board.run actions).lineCounter_write below value)
      change ((board.run actions).after (.write address value)).irqPending
        = (board.run actions).irqPending at kept
      rw [kept]
      simp
    | countLine =>
      have raised : ((board.run actions).after .countLine).irqPending
          = ((board.run actions).irqPending || (board.run actions).raises) := rfl
      rw [raised, Bool.or_eq_true, or_comm]
      simp
    | acknowledge =>
      have taken : ((board.run actions).after .acknowledge).irqPending = false := rfl
      rw [taken]
      simp
    | reset => exact (lastSpared _ List.mem_cons_self).elim

/-- On a board in any state, let the counter be set up for a number of lines and interrupts be
turned on or off, and let then lines be counted, requests be taken back and writes below `C000` be
made in any order. The counter runs down from the number to zero and starts anew, whether interrupts
are on or off. The next line raises the interrupt just if interrupts are on and its place among the
lines is a multiple of the number plus one. A request is there just if a line raised it and none
took it back since, and so never if interrupts are off. -/
theorem raises_of_lines (start : Mmc3) (lines restart off last : UInt8) (enabled : Bool)
    {actions : List Board.Action} (spared : ∀ action ∈ actions, SparesCounter action) :
    let set := start.run (setCounter lines restart off last enabled)
    let board := set.run actions
    let counted := actions.count .countLine
    (board.raises = true ↔ enabled = true ∧ lines.toNat + 1 ∣ counted + 1) ∧
    board.irqCounter.toNat = counted * lines.toNat % (lines.toNat + 1) ∧
    (board.irqPending = true ↔
      ∃ earlier later, actions = earlier ++ .countLine :: later ∧
        Board.Action.acknowledge ∉ later ∧ (set.run earlier).raises = true) ∧
    (enabled = false → board.irqPending = false) := by
  intro set board counted
  obtain ⟨begun, quiet⟩ := counting_setCounter start lines restart off last enabled
  have counting : Counting lines enabled counted board := begun.run spared
  have pending := irqPending_run_iff quiet spared
  refine ⟨counting.raises_iff, counting.counter_eq, pending, ?_⟩
  intro disabled
  rw [Bool.eq_false_iff, Ne, pending]
  rintro ⟨earlier, later, rfl, -, raised⟩
  have allowed := ((begun.run (List.forall_mem_append.1 spared).1).raises_iff.1 raised).1
  exact absurd (disabled.symm.trans allowed) Bool.noConfusion

/-- Three lines, with bank data and an acknowledgement among them. -/
def threeLines : List Board.Action :=
  [.countLine, .acknowledge, .write 0x8001 7, .countLine, .write 0xA000 0, .countLine]

/-- A counter set up for two lines raises the interrupt in the third, and is exhausted then. -/
theorem raises_of_lines_threeLines :
    let set := (powerOn ⟨4, 8⟩).run (setCounter 2 0 0 0 true)
    (∀ action ∈ threeLines, SparesCounter action) ∧
      (set.run (threeLines.take 5)).raises = true ∧ (set.run threeLines).irqPending = true ∧
      (set.run threeLines).irqCounter.toNat = 0 := by
  intro set
  have spared : ∀ action ∈ threeLines, SparesCounter action := by decide
  have sparedBefore : ∀ action ∈ threeLines.take 5, SparesCounter action :=
    fun action inside => spared action (List.mem_of_mem_take inside)
  have third : (set.run (threeLines.take 5)).raises = true :=
    (raises_of_lines (powerOn ⟨4, 8⟩) 2 0 0 0 true sparedBefore).1.2 ⟨rfl, by decide⟩
  obtain ⟨-, counter, pending, -⟩ := raises_of_lines (powerOn ⟨4, 8⟩) 2 0 0 0 true spared
  exact ⟨spared, third, pending.2 ⟨threeLines.take 5, [], rfl, List.not_mem_nil, third⟩, counter⟩

end Nes.Mmc3
