import Mathlib.Data.Nat.Digits.Defs
import Nes.Proofs.Cartridge.BoardUse

/-!
# The serial port of board 1 and its fixed bank

What board 1 has been told is read off the processor's writes alone (`Mmc1.Journal`): the bits since
the latest number was complete, the mode in force, and the latest number that the program register
took while program memory was seen through two windows. The registers of the board follow that
journal (`Mmc1.Follows`), whatever the order of the writes and the resets between them.

In a mode with two windows one of them is meant to show a fixed bank, the first or the last. The
board writes the fixed bank into its window where it takes a bank number, and not where the mode
changes. So a window shows the bank that the mode fixes except after a number that was taken in the
other mode (`Mmc1.showsBank_fixed_iff`); it shows the bank of that number until the next one.
-/
namespace Nes.Mmc1

/-- How program memory is seen. -/
inductive ProgramMode where
  /-- Through one window. -/
  | whole
  /-- Through two windows, of which the low one is fixed. -/
  | lowFixed
  /-- Through two windows, of which the high one is fixed. -/
  | highFixed
deriving DecidableEq

/-- The mode that bits 2 and 3 of a number for the control register choose. -/
def ProgramMode.ofControl (number : Nat) : ProgramMode :=
  match number / 4 % 4 with
  | 3 => highFixed
  | 2 => lowFixed
  | _ => whole

/-- The number that bits make, the first one the least significant. -/
def numberOf (bits : List Bool) : Nat := Nat.ofDigits 2 (bits.map (·.toNat))

/-- What the processor has told the board. -/
structure Journal where
  /-- The bits of the number under way, in the order of their writes. -/
  bits : List Bool
  /-- The mode in force. -/
  mode : ProgramMode
  /-- The latest number for the program register in a mode with two windows, and that mode. -/
  latest : Option (ProgramMode × Nat)

namespace Journal

/-- The journal at power-on and after a reset. -/
def start : Journal := ⟨[], .highFixed, none⟩

/-- A complete number for the register that an address names. -/
def commit (journal : Journal) (address : UInt16) (number : Nat) : Journal :=
  if address < 0xA000 then { journal with mode := .ofControl number }
  else if address < 0xE000 ∨ journal.mode = .whole then journal
  else { journal with latest := some (journal.mode, number) }

/-- A write to the serial port. -/
def write (journal : Journal) (address : UInt16) (value : UInt8) : Journal :=
  if bit value 7 then { journal with bits := [], mode := .highFixed }
  else if journal.bits.length < 4 then { journal with bits := journal.bits ++ [bit value 0] }
  else { journal.commit address (numberOf (journal.bits ++ [bit value 0])) with bits := [] }

/-- The journal after an action. -/
def after (journal : Journal) : Board.Action → Journal
  | .write address value =>
    if inProgramSpace address then journal.write address value else journal
  | .reset => start
  | .countLine | .acknowledge => journal

/-- The journal of all actions since power-on. -/
def of (actions : List Board.Action) : Journal := actions.foldl after start

/-- The bank of the window that takes its numbers in a mode: the latest number if it was taken in
that mode, and otherwise the bank that the other mode fixes. -/
def bankIn (journal : Journal) (mode : ProgramMode) (fixed : Nat) : Nat :=
  match journal.latest with
  | some (taken, number) => if taken = mode then number % 16 else fixed
  | none => fixed

/-- A window is at its fixed bank where the latest number was not taken in its mode, or names that
bank. -/
theorem bankIn_eq_fixed_iff (journal : Journal) (mode : ProgramMode) (fixed : Nat) :
    journal.bankIn mode fixed = fixed
      ↔ ∀ number, journal.latest = some (mode, number) → number % 16 = fixed := by
  rw [bankIn]
  rcases journal.latest with _ | ⟨taken, number⟩
  · exact ⟨fun _ _ impossible => (by cases impossible), fun _ => rfl⟩
  · by_cases same : taken = mode
    · subst same
      simp
    · simp [same]

end Journal

/-- The first bit is the least significant one. -/
theorem numberOf_cons (first : Bool) (bits : List Bool) :
    numberOf (first :: bits) = first.toNat + 2 * numberOf bits :=
  Nat.ofDigits_cons

/-- A bit behind the others has the place that their number gives it. -/
theorem numberOf_append (bits : List Bool) (last : Bool) :
    numberOf (bits ++ [last]) = numberOf bits + last.toNat * 2 ^ bits.length := by
  rw [numberOf, List.map_append, List.map_singleton, Nat.ofDigits_append, Nat.ofDigits_singleton,
    List.length_map, Nat.mul_comm (2 ^ _)]
  rfl

/-- A number is below the place behind its last bit. -/
theorem numberOf_lt (bits : List Bool) : numberOf bits < 2 ^ bits.length := by
  rw [numberOf, ← List.length_map (·.toNat)]
  apply Nat.ofDigits_lt_base_pow_length (by decide)
  intro digit member
  obtain ⟨bit, -, rfl⟩ := List.mem_map.1 member
  exact bit.toNat_lt

/-- A bit enters the shift register at its top while the others move down. -/
theorem toNat_shiftIn {shift : UInt8} (fits : shift.toNat < 32) (value : UInt8) :
    (shift >>> 1 ||| (value &&& 0x01) <<< 4).toNat
      = shift.toNat / 2 + 16 * (bit value 0).toNat := by
  have low : value.toNat &&& 1 = (bit value 0).toNat := by
    rw [Nat.and_one_is_mod, bit, Nat.testBit_zero]
    rcases Nat.mod_two_eq_zero_or_one value.toNat with zero | one
    · rw [zero]
      rfl
    · rw [one]
      rfl
  have top : (value &&& 0x01).toNat = (bit value 0).toNat := low
  have entered : ((value &&& 0x01) <<< 4).toNat = 2 ^ 4 * (bit value 0).toNat := by
    have small := (bit value 0).toNat_lt
    rw [UInt8.toNat_shiftLeft, top, Nat.shiftLeft_eq]
    simp only [UInt8.reduceToNat, Nat.reduceMod]
    omega
  have moved : (shift >>> 1).toNat = shift.toNat / 2 := by
    rw [UInt8.toNat_shiftRight]
    exact Nat.shiftRight_eq_div_pow _ 1
  have below : shift.toNat / 2 < 2 ^ 4 := by omega
  rw [UInt8.toNat_or, moved, entered, Nat.or_comm, ← Nat.two_pow_add_eq_or_of_lt below]
  omega

/-- The mode in force. -/
def programMode (board : Mmc1) : ProgramMode := .ofControl board.control.toNat

/-- The two bits of the mode, each by itself. -/
theorem ofControl_toNat (control : UInt8) :
    ProgramMode.ofControl control.toNat
      = match bit control 3, bit control 2 with
        | true, true => .highFixed
        | true, false => .lowFixed
        | false, _ => .whole := by
  have third : bit control 3 = decide (control.toNat / 2 ^ 3 % 2 = 1) :=
    Nat.testBit_eq_decide_div_mod_eq
  have second : bit control 2 = decide (control.toNat / 2 ^ 2 % 2 = 1) :=
    Nat.testBit_eq_decide_div_mod_eq
  have field : control.toNat / 4 % 4
      = 2 * (control.toNat / 2 ^ 3 % 2) + control.toNat / 2 ^ 2 % 2 := by omega
  rw [third, second, ProgramMode.ofControl, field]
  rcases Nat.mod_two_eq_zero_or_one (control.toNat / 2 ^ 3) with high | high <;>
    rcases Nat.mod_two_eq_zero_or_one (control.toNat / 2 ^ 2) with low | low <;>
    (rw [high, low]; rfl)

/-- A number written with bit 7 set chooses the mode with the high window fixed. -/
theorem ofControl_or (control : UInt8) :
    ProgramMode.ofControl (control ||| 0x0C).toNat = .highFixed := by
  have third : bit (control ||| 0x0C) 3 = true := by
    rw [bit, UInt8.toNat_or, Nat.testBit_or]
    exact Bool.or_true _
  have second : bit (control ||| 0x0C) 2 = true := by
    rw [bit, UInt8.toNat_or, Nat.testBit_or]
    exact Bool.or_true _
  rw [ofControl_toNat, third, second]

/-- The serial port holds the bits of the number under way. -/
structure Collects (board : Mmc1) (bits : List Bool) : Prop where
  /-- The number is not complete. -/
  incomplete : bits.length < 5
  /-- The counter counts its bits. -/
  count : board.count.toNat = bits.length
  /-- They stand at the top of the five bits that the shift register uses. -/
  shift : board.shift.toNat = numberOf bits * 2 ^ (5 - bits.length)

/-- The registers behind the port hold what the journal says. -/
structure Remembers (banks : BankCounts) (board : Mmc1) (journal : Journal) : Prop where
  /-- The bank counts are those of the cartridge. -/
  banks_eq : board.banks = banks
  /-- The mode is the one chosen last. -/
  mode : board.programMode = journal.mode
  /-- The low window takes its numbers while the high one is fixed, and is fixed to the first bank
  otherwise. -/
  low : board.programLow.toNat = journal.bankIn .highFixed 0
  /-- The high window takes its numbers while the low one is fixed, and is fixed to the last bank
  otherwise. -/
  high : board.programHigh.toNat = journal.bankIn .lowFixed banks.lastProgram.toNat

/-- The board holds what the journal says. -/
structure Follows (banks : BankCounts) (board : Mmc1) (journal : Journal) : Prop where
  /-- The number under way. -/
  port : Collects board journal.bits
  /-- The complete ones. -/
  registers : Remembers banks board journal

variable {banks : BankCounts} {board : Mmc1} {journal : Journal}

/-- A reset board starts a journal anew, in the mode with the high window fixed. -/
theorem follows_reset (board : Mmc1) : Follows board.banks board.reset .start where
  port := ⟨by decide, rfl, rfl⟩
  registers := ⟨rfl, ofControl_toNat 0x1C, rfl, rfl⟩

/-- The low four bits of a number, as bank registers keep them. -/
theorem toNat_and_lowNibble (value : UInt8) : (value &&& 0x0F).toNat = value.toNat % 16 :=
  Nat.and_two_pow_sub_one_eq_mod value.toNat 4

/-- The program register takes a number, and the other window goes to its fixed bank. -/
theorem Remembers.setProgram (remembers : Remembers banks board journal) (value : UInt8) :
    Remembers banks (board.setProgram value)
      (if journal.mode = .whole then journal
        else { journal with latest := some (journal.mode, value.toNat) }) := by
  have mode : journal.mode = match bit board.control 3, bit board.control 2 with
        | true, true => .highFixed
        | true, false => .lowFixed
        | false, _ => .whole :=
    remembers.mode.symm.trans (ofControl_toNat board.control)
  have nibble := toNat_and_lowNibble value
  obtain ⟨banks_eq, chosen, low, high⟩ := remembers
  rcases third : bit board.control 3 <;> rcases second : bit board.control 2 <;>
    simp only [third, second] at mode <;> simp only [Mmc1.setProgram, third, second, mode]
  · exact ⟨banks_eq, chosen, low, high⟩
  · exact ⟨banks_eq, chosen, low, high⟩
  · exact ⟨banks_eq, chosen.trans mode, rfl, nibble⟩
  · exact ⟨banks_eq, chosen.trans mode, nibble,
      congrArg (fun banks : BankCounts => banks.lastProgram.toNat) banks_eq⟩

/-- Bits 13 and 14 of the address of a complete number, both clear for the control register and
both set for the program register. -/
theorem Journal.commit_of_inProgramSpace (journal : Journal) {address : UInt16}
    (space : inProgramSpace address = true) (number : Nat) :
    journal.commit address number
      = match wordBit address 14, wordBit address 13 with
        | false, false => { journal with mode := .ofControl number }
        | true, true =>
          if journal.mode = .whole then journal
          else { journal with latest := some (journal.mode, number) }
        | _, _ => journal := by
  have bound := address.toNat_lt
  have lower : 0x8000 ≤ address.toNat := UInt16.le_iff_toNat_le.1 (of_decide_eq_true space)
  have first : address < 0xA000 ↔ address.toNat < 0xA000 := UInt16.lt_iff_toNat_lt
  have last : address < 0xE000 ↔ address.toNat < 0xE000 := UInt16.lt_iff_toNat_lt
  rw [commit]
  rcases fourteen : wordBit address 14 <;> rcases thirteen : wordBit address 13 <;>
    simp only [wordBit, Nat.testBit_eq_decide_div_mod_eq, decide_eq_true_iff,
      decide_eq_false_iff_not] at fourteen thirteen
  · rw [if_pos (first.2 (by omega))]
  · rw [if_neg (first.not.2 (by omega)), if_pos (.inl (last.2 (by omega)))]
  · rw [if_neg (first.not.2 (by omega)), if_pos (.inl (last.2 (by omega)))]
  · have beyond : ¬address < 0xE000 := last.not.2 (by omega)
    rw [if_neg (first.not.2 (by omega))]
    simp only [beyond, false_or]

/-- A complete number goes to the register that its address names. -/
theorem Remembers.commit (remembers : Remembers banks board journal) {address : UInt16}
    (space : inProgramSpace address = true) (value : UInt8) :
    Remembers banks (board.commit address value) (journal.commit address value.toNat) := by
  have taken := remembers.setProgram value
  obtain ⟨banks_eq, mode, low, high⟩ := remembers
  rw [Mmc1.commit, journal.commit_of_inProgramSpace space]
  rcases wordBit address 14 <;> rcases wordBit address 13
  · exact ⟨banks_eq, rfl, low, high⟩
  · dsimp only
    split <;> exact ⟨banks_eq, mode, low, high⟩
  · dsimp only
    split <;> exact ⟨banks_eq, mode, low, high⟩
  · exact taken

namespace Collects

variable {bits : List Bool} (collects : Collects board bits) (value : UInt8)

include collects

/-- A bit that enters the shift register is the next one of the number. -/
theorem toNat_shiftIn :
    (board.shift >>> 1 ||| (value &&& 0x01) <<< 4).toNat
      = numberOf (bits ++ [bit value 0]) * 2 ^ (4 - bits.length) := by
  obtain ⟨incomplete, -, shift⟩ := collects
  -- the bits so far move down by one place, and the new one takes the place of 16
  have room : 5 - bits.length = 4 - bits.length + 1 := by omega
  have top : 2 ^ bits.length * 2 ^ (4 - bits.length) = 16 := by
    rw [← Nat.pow_add, Nat.add_sub_cancel' (Nat.le_of_lt_succ incomplete)]
  rw [room, Nat.pow_succ, ← Nat.mul_assoc] at shift
  have below := Nat.mul_lt_mul_of_pos_right (numberOf_lt bits) (Nat.two_pow_pos (4 - bits.length))
  have fits : board.shift.toNat < 32 := by omega
  have half : board.shift.toNat / 2 = numberOf bits * 2 ^ (4 - bits.length) := by omega
  rw [Mmc1.toNat_shiftIn fits, half, numberOf_append, Nat.add_mul, Nat.mul_assoc, top,
    Nat.mul_comm 16]

/-- The counter has room for one more bit of an incomplete number. -/
theorem toNat_count_succ : (board.count + 1).toNat = bits.length + 1 := by
  have incomplete := collects.incomplete
  rw [UInt8.toNat_add, collects.count]
  change (bits.length + 1) % 2 ^ 8 = _
  omega

/-- One of the first four bits is collected. -/
theorem push (more : bits.length < 4) :
    Collects { board with
      shift := board.shift >>> 1 ||| (value &&& 0x01) <<< 4
      count := board.count + 1 } (bits ++ [bit value 0]) := by
  have length : (bits ++ [bit value 0]).length = bits.length + 1 := List.length_append
  constructor
  case incomplete => omega
  case count => exact collects.toNat_count_succ.trans length.symm
  case shift =>
    have room : 5 - (bits.length + 1) = 4 - bits.length := by omega
    rw [collects.toNat_shiftIn, length, room]

/-- The fifth bit has come down to the place of 1, so the shift register holds the number. -/
theorem complete (full : bits.length = 4) :
    ((board.shift >>> 1 ||| (value &&& 0x01) <<< 4) &&& 0x1F).toNat
      = numberOf (bits ++ [bit value 0]) := by
  have small := numberOf_lt (bits ++ [bit value 0])
  rw [List.length_append, full] at small
  rw [UInt8.toNat_and, collects.toNat_shiftIn, full, Nat.sub_self, Nat.pow_zero, Nat.mul_one]
  exact (Nat.and_two_pow_sub_one_eq_mod _ 5).trans (Nat.mod_eq_of_lt small)

end Collects

/-- A write to the serial port is one to the journal. -/
theorem Follows.writeSerial (follows : Follows banks board journal) {address : UInt16}
    (space : inProgramSpace address = true) (value : UInt8) :
    Follows banks (board.writeSerial address value) (journal.write address value) := by
  obtain ⟨port, registers⟩ := follows
  have incomplete := port.incomplete
  have early : board.count + 1 < 5 ↔ journal.bits.length < 4 := by
    rw [UInt8.lt_iff_toNat_lt, port.toNat_count_succ]
    change journal.bits.length + 1 < 5 ↔ _
    omega
  rw [Mmc1.writeSerial, Journal.write]
  by_cases abandons : bit value 7 = true
  · rw [if_pos abandons, if_pos abandons]
    exact ⟨⟨Nat.zero_lt_succ 4, rfl, rfl⟩,
      ⟨registers.banks_eq, ofControl_or board.control, registers.low, registers.high⟩⟩
  rw [if_neg abandons, if_neg abandons]
  dsimp only
  by_cases more : journal.bits.length < 4
  · rw [if_pos (early.2 more), if_pos more]
    exact ⟨port.push value more,
      ⟨registers.banks_eq, registers.mode, registers.low, registers.high⟩⟩
  · have taken := registers.commit space ((board.shift >>> 1 ||| (value &&& 0x01) <<< 4) &&& 0x1F)
    rw [port.complete value (by omega)] at taken
    rw [if_neg (early.not.2 more), if_neg more]
    exact ⟨⟨Nat.zero_lt_succ 4, rfl, rfl⟩, ⟨taken.banks_eq, taken.mode, taken.low, taken.high⟩⟩

/-- Board 1 after an action. -/
def after (board : Mmc1) : Board.Action → Mmc1
  | .write address value => (board.write address value).2
  | .reset => board.reset
  | .countLine | .acknowledge => board

/-- Board 1 after actions in order. -/
def run (board : Mmc1) (actions : List Board.Action) : Mmc1 := actions.foldl after board

/-- A run of board 1 is one of the board as the cartridge sees it. -/
theorem board_run (board : Mmc1) (actions : List Board.Action) :
    (Board.mmc1 board).run actions = .mmc1 (board.run actions) := by
  have step (board : Mmc1) (action : Board.Action) :
      (Board.mmc1 board).after action = .mmc1 (board.after action) := by
    cases action <;> rfl
  exact List.foldl_hom Board.mmc1 step

/-- The board goes on following the journal. -/
theorem Follows.after (follows : Follows banks board journal) (action : Board.Action) :
    Follows banks (board.after action) (journal.after action) := by
  cases action with
  | write address value =>
    rw [Mmc1.after, Journal.after, write]
    by_cases space : inProgramSpace address = true
    · have notMemory := Bool.eq_false_iff.1 (inBoardMemory_of_program space)
      rw [if_neg notMemory, if_pos space, if_pos space]
      exact follows.writeSerial space value
    · rw [if_neg space, if_neg space]
      obtain ⟨⟨incomplete, count, shift⟩, ⟨banks_eq, mode, low, high⟩⟩ := follows
      split <;> exact ⟨⟨incomplete, count, shift⟩, ⟨banks_eq, mode, low, high⟩⟩
  | reset =>
    have start := follows_reset board
    rw [follows.registers.banks_eq] at start
    exact start
  | countLine => exact follows
  | acknowledge => exact follows

/-- After any actions the board holds what the journal of the actions says. -/
theorem Follows.run (follows : Follows banks board journal) (actions : List Board.Action) :
    Follows banks (board.run actions) (actions.foldl Journal.after journal) := by
  induction actions generalizing board journal with
  | nil => exact follows
  | cons action actions ih => exact ih (follows.after action)

/-- That is so from power-on on. -/
theorem follows_run (banks : BankCounts) (actions : List Board.Action) :
    Follows banks ((powerOn banks).run actions) (.of actions) := by
  have start : Follows banks (powerOn banks) .start := follows_reset (powerOn banks)
  exact start.run actions

/-- The 16 KiB window at an address shows a bank of program memory. -/
def ShowsBank (board : Mmc1) (window : UInt16) (bank : Nat) : Prop :=
  ∀ offset : UInt16, offset < 0x4000 →
    board.readTarget (window + offset) = some (.program (bank * 0x4000 + offset.toNat))

/-- In a mode with two windows, each is at the bank that its register holds. -/
theorem readTarget_of_window (split : board.programMode ≠ .whole) {window : UInt16}
    (start : window = 0x8000 ∨ window = 0xC000) {offset : UInt16} (inside : offset < 0x4000) :
    board.readTarget (window + offset)
      = some (.program ((if window < 0xC000 then board.programLow else board.programHigh).toNat
        * 0x4000 + offset.toNat)) := by
  have splits : board.splitsProgram = true := by
    rcases third : bit board.control 3
    · rw [programMode, ofControl_toNat, third] at split
      exact absurd rfl split
    · exact third
  have bound : offset.toNat < 0x4000 := UInt16.lt_iff_toNat_lt.1 inside
  have either : window.toNat = 0x8000 ∨ window.toNat = 0xC000 :=
    start.imp (congrArg UInt16.toNat) (congrArg UInt16.toNat)
  have place : (window + offset).toNat = window.toNat + offset.toNat := by
    rw [UInt16.toNat_add]
    omega
  have space : inProgramSpace (window + offset) = true := by
    apply decide_eq_true
    apply UInt16.le_iff_toNat_le.2
    change 0x8000 ≤ _
    omega
  have same : window + offset < 0xC000 ↔ window < 0xC000 := by
    rw [UInt16.lt_iff_toNat_lt, UInt16.lt_iff_toNat_lt]
    change _ < 0xC000 ↔ _ < 0xC000
    omega
  have remainder : (window + offset).toNat % 0x4000 = offset.toNat := by omega
  have notMemory := Bool.eq_false_iff.1 (inBoardMemory_of_program space)
  simp only [readTarget, if_neg notMemory, if_pos space, if_pos splits, same, remainder]

/-- A window shows the bank in its register and no other one. -/
theorem showsBank_iff (split : board.programMode ≠ .whole) {window : UInt16}
    (start : window = 0x8000 ∨ window = 0xC000) (bank : Nat) :
    board.ShowsBank window bank
      ↔ (if window < 0xC000 then board.programLow else board.programHigh).toNat = bank := by
  constructor
  · intro shows
    have shown := shows 0 (by decide)
    rw [readTarget_of_window split start (by decide)] at shown
    have offsets := ReadTarget.program.inj (Option.some.inj shown)
    omega
  · intro same offset inside
    rw [readTarget_of_window split start inside, same]

/-- A window whose register is the journal's shows its fixed bank just where the latest number was
not taken for it, or is that of the fixed bank. -/
theorem showsBank_bankIn (split : board.programMode ≠ .whole) {window : UInt16}
    (start : window = 0x8000 ∨ window = 0xC000) {mode : ProgramMode} {fixed : Nat}
    (held : (if window < 0xC000 then board.programLow else board.programHigh).toNat
      = journal.bankIn mode fixed) :
    board.ShowsBank window (journal.bankIn mode fixed) ∧
      (board.ShowsBank window fixed ↔
        ∀ number, journal.latest = some (mode, number) → number % 16 = fixed) := by
  constructor
  · exact (showsBank_iff split start _).2 held
  · rw [showsBank_iff split start, held]
    exact journal.bankIn_eq_fixed_iff mode fixed

/-- After any writes and resets, the window that the mode fixes shows its fixed bank just where the
latest number was not taken in the other mode, or happens to be that of the fixed bank: the high
window the last bank and the low window the first. Otherwise it shows the bank of that number. -/
theorem showsBank_fixed_iff (banks : BankCounts) (banked : 0 < banks.program.toNat)
    (few : banks.program.toNat ≤ 256) (actions : List Board.Action) :
    let board := (powerOn banks).run actions
    let journal := Journal.of actions
    (Board.mmc1 (powerOn banks)).run actions = .mmc1 board ∧
    (board.programMode = .highFixed →
      board.ShowsBank 0xC000 (journal.bankIn .lowFixed (banks.program.toNat - 1)) ∧
      (board.ShowsBank 0xC000 (banks.program.toNat - 1) ↔
        ∀ number, journal.latest = some (.lowFixed, number) →
          number % 16 = banks.program.toNat - 1)) ∧
    (board.programMode = .lowFixed →
      board.ShowsBank 0x8000 (journal.bankIn .highFixed 0) ∧
      (board.ShowsBank 0x8000 0 ↔
        ∀ number, journal.latest = some (.highFixed, number) → number % 16 = 0)) := by
  intro board journal
  have follows : Follows banks board journal := follows_run banks actions
  have last : banks.lastProgram.toNat = banks.program.toNat - 1 :=
    UInt8.toNat_ofNat_of_lt' (Nat.sub_one_lt_of_le banked few)
  refine ⟨board_run _ actions, ?_, ?_⟩
  · intro mode
    have split : board.programMode ≠ .whole := by
      rw [mode]
      decide
    have high := follows.registers.high
    rw [last] at high
    exact showsBank_bankIn split (.inr rfl) high
  · intro mode
    have split : board.programMode ≠ .whole := by
      rw [mode]
      decide
    exact showsBank_bankIn split (.inl rfl) follows.registers.low

/-- Bank 3 is chosen while the low window is fixed, and then a write with bit 7 fixes the high
one. -/
def chosenThenAbandoned : List Board.Action := [
  .write 0x8000 0, .write 0x8000 1, .write 0x8000 0, .write 0x8000 1, .write 0x8000 0,
  .write 0xE000 1, .write 0xE000 1, .write 0xE000 0, .write 0xE000 0, .write 0xE000 0,
  .write 0x8000 0x80]

/-- With eight banks, these writes leave bank 3 in the high window. -/
theorem showsBank_fixed_iff_of_abandoned :
    let board := (powerOn ⟨8, 2⟩).run chosenThenAbandoned
    board.programMode = .highFixed ∧ board.ShowsBank 0xC000 3 ∧ ¬board.ShowsBank 0xC000 7 := by
  have mode : ((powerOn ⟨8, 2⟩).run chosenThenAbandoned).programMode = .highFixed := by
    decide +kernel
  have latest : (Journal.of chosenThenAbandoned).latest = some (.lowFixed, 3) := by
    decide +kernel
  have bank : (Journal.of chosenThenAbandoned).bankIn .lowFixed 7 = 3 := by
    rw [Journal.bankIn, latest]
    rfl
  obtain ⟨shows, fixed⟩ :=
    (showsBank_fixed_iff ⟨8, 2⟩ (by decide) (by decide) chosenThenAbandoned).2.1 mode
  refine ⟨mode, ?_, ?_⟩
  · rw [← bank]
    exact shows
  · intro shown
    exact absurd (fixed.1 shown 3 latest) (by decide)

end Nes.Mmc1
