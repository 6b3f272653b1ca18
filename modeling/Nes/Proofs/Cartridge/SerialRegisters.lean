import Mathlib.Algebra.BigOperators.Ring.Finset
import Nes.Proofs.Cartridge.SerialPort

/-!
# The registers behind the serial port of board 1

To the processor the serial port is a list: each write adds one bit, the fifth bit makes the list a
number that one of four registers takes, and a write with bit 7 set empties the list. The board has
a shift register and a counter instead, which hold the list as `Mmc1.Collects` says. Nothing else
about the board depends on them, so a list that is not complete changes no answer of the board
(`Mmc1.registers_of_bits`).
-/
namespace Nes.Mmc1

/-- The registers that numbers written to the serial port can change. -/
structure Registers where
  /-- The control register. -/
  control : Nat
  /-- The mirroring that the control register chose. -/
  mirroring : Option Mirroring
  /-- The character bank at `0000`, 4 KiB in size. -/
  characterLow : Nat
  /-- The character bank at `1000`, 4 KiB in size. -/
  characterHigh : Nat
  /-- The character bank of the mode with one window, counted in 4 KiB. -/
  characterWhole : Nat
  /-- The program bank at `8000`, 16 KiB in size. -/
  programLow : Nat
  /-- The program bank at `C000`, 16 KiB in size. -/
  programHigh : Nat
  /-- The program bank of the mode with one window, 32 KiB in size. -/
  programWhole : Nat
deriving DecidableEq

/-- The registers of a board. -/
def registers (board : Mmc1) : Registers where
  control := board.control.toNat
  mirroring := board.mirroring
  characterLow := board.characterLow.toNat
  characterHigh := board.characterHigh.toNat
  characterWhole := board.characterWhole.toNat
  programLow := board.programLow.toNat
  programHigh := board.programHigh.toNat
  programWhole := board.programWhole.toNat

/-- The mirroring that a number for the control register chooses. -/
def mirroringOf (number : Nat) : Mirroring :=
  match number % 4 with
  | 0 => .oneScreenLow
  | 1 => .oneScreenHigh
  | 2 => .vertical
  | _ => .horizontal

namespace Registers

variable (registers : Registers)

/-- Bits 2 and 3 of the control register are set. -/
def fixHigh : Registers :=
  { registers with control := registers.control / 16 * 16 + 12 + registers.control % 4 }

/-- The program register takes a number as the mode in force says. -/
def takeProgram (lastBank number : Nat) : Registers :=
  match ProgramMode.ofControl registers.control with
  | .whole => { registers with programWhole := number % 16 / 2 }
  | .lowFixed => { registers with programLow := 0, programHigh := number % 16 }
  | .highFixed => { registers with programLow := number % 16, programHigh := lastBank }

/-- One of the four registers takes a number. Bit 4 of the control register says whether there are
two character windows; with one, the low bit of its bank is dropped and the register for the high
window takes nothing. -/
def take (lastBank register number : Nat) : Registers :=
  match register with
  | 0 => { registers with control := number, mirroring := some (mirroringOf number) }
  | 1 =>
    if registers.control / 16 % 2 = 1 then { registers with characterLow := number }
    else { registers with characterWhole := number / 2 * 2 }
  | 2 =>
    if registers.control / 16 % 2 = 1 then { registers with characterHigh := number }
    else registers
  | _ => registers.takeProgram lastBank number

end Registers

/-- The number of a list of bits is the sum of their places. -/
theorem numberOf_eq_sum (bits : List Bool) :
    numberOf bits
      = ∑ index ∈ Finset.range bits.length, (bits.getD index false).toNat * 2 ^ index := by
  induction bits with
  | nil => rfl
  | cons first bits ih =>
    have later (index : Nat) :
        (bits.getD index false).toNat * 2 ^ (index + 1)
          = 2 * ((bits.getD index false).toNat * 2 ^ index) := by
      rw [Nat.pow_succ, Nat.mul_comm _ 2, Nat.mul_left_comm]
    rw [numberOf_cons, ih, List.length_cons, Finset.sum_range_succ']
    simp only [List.getD_cons_succ, List.getD_cons_zero, later, ← Finset.mul_sum, Nat.pow_zero,
      Nat.mul_one]
    exact Nat.add_comm _ _

/-- The mirroring by single bits is that by the number. -/
theorem chosenMirroring_eq (control : UInt8) :
    chosenMirroring control = mirroringOf control.toNat := by
  have first : bit control 1 = decide (control.toNat / 2 ^ 1 % 2 = 1) :=
    Nat.testBit_eq_decide_div_mod_eq
  have zeroth : bit control 0 = decide (control.toNat / 2 ^ 0 % 2 = 1) :=
    Nat.testBit_eq_decide_div_mod_eq
  have field : control.toNat % 4
      = 2 * (control.toNat / 2 ^ 1 % 2) + control.toNat / 2 ^ 0 % 2 := by omega
  rw [chosenMirroring, first, zeroth, mirroringOf, field]
  rcases Nat.mod_two_eq_zero_or_one (control.toNat / 2 ^ 1) with high | high <;>
    rcases Nat.mod_two_eq_zero_or_one (control.toNat / 2 ^ 0) with low | low <;>
    (rw [high, low]; rfl)

/-- Bit 4 of the control register. -/
theorem splitsCharacter_iff (board : Mmc1) :
    board.splitsCharacter = true ↔ board.control.toNat / 16 % 2 = 1 := by
  rw [splitsCharacter, bit, Nat.testBit_eq_decide_div_mod_eq, decide_eq_true_iff]

/-- Bits 13 and 14 of an address as a number. -/
theorem register_of_bits (address : UInt16) :
    address.toNat / 0x2000 % 4
      = 2 * (wordBit address 14).toNat + (wordBit address 13).toNat := by
  have fourteen : wordBit address 14 = decide (address.toNat / 2 ^ 14 % 2 = 1) :=
    Nat.testBit_eq_decide_div_mod_eq
  have thirteen : wordBit address 13 = decide (address.toNat / 2 ^ 13 % 2 = 1) :=
    Nat.testBit_eq_decide_div_mod_eq
  have field : address.toNat / 0x2000 % 4
      = 2 * (address.toNat / 2 ^ 14 % 2) + address.toNat / 2 ^ 13 % 2 := by omega
  rw [fourteen, thirteen, field]
  rcases Nat.mod_two_eq_zero_or_one (address.toNat / 2 ^ 14) with high | high <;>
    rcases Nat.mod_two_eq_zero_or_one (address.toNat / 2 ^ 13) with low | low <;>
    (rw [high, low]; rfl)

/-- The set bits of a write with bit 7. -/
theorem toNat_or_fixHigh (control : UInt8) :
    (control ||| 0x0C).toNat = control.toNat / 16 * 16 + 12 + control.toNat % 4 := by
  have every : ∀ number < 256, number ||| 0x0C = number / 16 * 16 + 12 + number % 4 := by
    decide +kernel
  exact every _ control.toNat_lt

/-- The program register takes the four low bits of a number. -/
theorem registers_setProgram (board : Mmc1) (value : UInt8) :
    (board.setProgram value).registers
      = board.registers.takeProgram board.banks.lastProgram.toNat value.toNat := by
  have whole : ∀ number < 256, (number &&& 0x0E) >>> 1 = number % 16 / 2 := by decide +kernel
  have halved : ((value &&& 0x0E) >>> 1).toNat = value.toNat % 16 / 2 := by
    rw [UInt8.toNat_shiftRight, UInt8.toNat_and]
    exact whole _ value.toNat_lt
  have mode : ProgramMode.ofControl board.registers.control = _ := ofControl_toNat board.control
  rw [setProgram, Registers.takeProgram, mode, ← halved, ← toNat_and_lowNibble]
  rcases bit board.control 3 <;> rcases bit board.control 2 <;> rfl

/-- A complete number goes to the register that bits 13 and 14 of the address name. -/
theorem registers_commit (board : Mmc1) (address : UInt16) {value : UInt8}
    (five : value.toNat < 32) :
    (board.commit address value).registers
      = board.registers.take board.banks.lastProgram.toNat (address.toNat / 0x2000 % 4)
          value.toNat := by
  have even : ∀ number < 32, number &&& 0x1E = number / 2 * 2 := by decide
  have pair : (value &&& 0x1E).toNat = value.toNat / 2 * 2 :=
    (UInt8.toNat_and ..).trans (even _ five)
  have splits := board.splitsCharacter_iff
  rw [commit, register_of_bits]
  rcases wordBit address 14 <;> rcases wordBit address 13
  · change Registers.mk _ (some (chosenMirroring value)) _ _ _ _ _ _ = _
    rw [chosenMirroring_eq]
    rfl
  · dsimp only
    by_cases two : board.splitsCharacter = true
    · rw [if_pos two]
      exact (if_pos (splits.1 two)).symm
    · rw [if_neg two]
      refine Eq.trans ?_ (if_neg (splits.not.1 two)).symm
      rw [← pair]
      rfl
  · dsimp only
    by_cases two : board.splitsCharacter = true
    · rw [if_pos two]
      exact (if_pos (splits.1 two)).symm
    · rw [if_neg two]
      exact (if_neg (splits.not.1 two)).symm
  · exact board.registers_setProgram value

/-- A write with bit 7 set changes no register but the two mode bits of the control register. -/
theorem registers_writeSerial_of_abandons (board : Mmc1) (address : UInt16) {value : UInt8}
    (abandons : bit value 7 = true) :
    (board.writeSerial address value).registers = board.registers.fixHigh := by
  rw [writeSerial, if_pos abandons, Registers.fixHigh]
  change Registers.mk (board.control ||| 0x0C).toNat _ _ _ _ _ _ _ = _
  rw [toNat_or_fixHigh]
  rfl

/-- The bits of a number that is not complete are in the shift register and the counter alone. -/
theorem writeSerial_of_more {board : Mmc1} {bits : List Bool} (collects : Collects board bits)
    (address : UInt16) {value : UInt8} (keeps : bit value 7 = false) (more : bits.length < 4) :
    board.writeSerial address value
      = { board with
          shift := board.shift >>> 1 ||| (value &&& 0x01) <<< 4
          count := board.count + 1 } := by
  have early : board.count + 1 < 5 := by
    rw [UInt8.lt_iff_toNat_lt, collects.toNat_count_succ]
    exact Nat.succ_lt_succ more
  rw [writeSerial, if_neg (Bool.eq_false_iff.1 keeps)]
  exact if_pos early

/-- The fifth bit makes the number that the register of its address takes. -/
theorem registers_writeSerial_of_last {board : Mmc1} {bits : List Bool}
    (collects : Collects board bits) (address : UInt16) {value : UInt8}
    (keeps : bit value 7 = false) (last : bits.length = 4) :
    (board.writeSerial address value).registers
      = board.registers.take board.banks.lastProgram.toNat (address.toNat / 0x2000 % 4)
          (numberOf (bits ++ [bit value 0])) := by
  have late : ¬board.count + 1 < 5 := by
    rw [UInt8.lt_iff_toNat_lt, collects.toNat_count_succ, last]
    decide
  have number := collects.complete value last
  have five := numberOf_lt (bits ++ [bit value 0])
  rw [List.length_append, last, ← number] at five
  rw [writeSerial, if_neg (Bool.eq_false_iff.1 keeps), ← number]
  dsimp only
  rw [if_neg late]
  exact board.registers_commit address five

/-- A board that differs in the port alone gives the same answers. -/
theorem face_of_port (board : Mmc1) (shift count : UInt8) :
    (Board.mmc1 { board with shift, count }).face = (Board.mmc1 board).face := by
  have target : (fun address value => (write { board with shift, count } address value).1)
      = fun address value => (write board address value).1 := by
    funext address value
    rw [write, write]
    split
    · rfl
    split <;> rfl
  exact congrArg
    (fun target => (⟨board.readTarget, target, board.characterRead, board.characterWrite,
      board.mirroring, false⟩ : Board.Face)) target

/-- The last action is done to the board that the others have left behind. -/
theorem run_concat (board : Mmc1) (actions : List Board.Action) (action : Board.Action) :
    board.run (actions ++ [action]) = (board.run actions).after action :=
  List.foldl_concat ..

/-- The last action is entered into the journal of the others. -/
theorem Journal.of_concat (actions : List Board.Action) (action : Board.Action) :
    Journal.of (actions ++ [action]) = (Journal.of actions).after action :=
  List.foldl_concat ..

/-- A write to program space goes to the serial port. -/
theorem after_write_of_space (board : Mmc1) {address : UInt16}
    (space : inProgramSpace address = true) (value : UInt8) :
    board.after (.write address value) = board.writeSerial address value := by
  have notMemory := Bool.eq_false_iff.1 (inBoardMemory_of_program space)
  rw [after, write, if_neg notMemory, if_pos space]

/-- Nothing else reaches the registers. -/
theorem registers_after_write_of_elsewhere (board : Mmc1) {address : UInt16}
    (elsewhere : inProgramSpace address = false) (value : UInt8) :
    (board.after (.write address value)).registers = board.registers := by
  rw [after, write, if_neg (Bool.eq_false_iff.1 elsewhere)]
  split <;> rfl

/-- Whatever is done to a board after a reset, its serial port is a list of fewer than five bits,
the low bits of the writes since the latest reset, write with bit 7 or complete number. A write with
bit 7 empties the list, sets bits 2 and 3 of the control register and changes no other register. The
first four bits change no answer of the board. The fifth makes a number, the sum of the places of
the bits in the order of their writes, which the register takes that bits 13 and 14 of its own
address name; then the list is empty. Writes elsewhere change neither the list nor a register. -/
theorem registers_of_bits (start : Mmc1) (actions : List Board.Action) :
    let board := start.reset.run actions
    let bits := (Journal.of actions).bits
    bits.length < 5 ∧
    ∀ (address : UInt16) (value : UInt8),
      let next := start.reset.run (actions ++ [.write address value])
      let nextBits := (Journal.of (actions ++ [.write address value])).bits
      (inProgramSpace address = false → nextBits = bits ∧ next.registers = board.registers) ∧
      (inProgramSpace address = true →
        (bit value 7 = true → nextBits = [] ∧ next.registers = board.registers.fixHigh) ∧
        (bit value 7 = false → bits.length < 4 →
          nextBits = bits ++ [bit value 0] ∧ next.registers = board.registers ∧
            (Board.mmc1 next).face = (Board.mmc1 board).face) ∧
        (bit value 7 = false → bits.length = 4 →
          nextBits = [] ∧
            next.registers = board.registers.take start.banks.lastProgram.toNat
              (address.toNat / 0x2000 % 4)
              (∑ index ∈ Finset.range 5,
                ((bits ++ [bit value 0]).getD index false).toNat * 2 ^ index))) := by
  intro board bits
  have follows : Follows start.banks board (.of actions) := (follows_reset start).run actions
  have port : Collects board bits := follows.port
  have banks : board.banks = start.banks := follows.registers.banks_eq
  refine ⟨port.incomplete, ?_⟩
  intro address value next nextBits
  have journal : nextBits = ((Journal.of actions).after (.write address value)).bits :=
    congrArg Journal.bits (Journal.of_concat actions _)
  have stepped : next = board.after (.write address value) := start.reset.run_concat actions _
  rw [journal, stepped, Journal.after]
  constructor
  · intro elsewhere
    rw [if_neg (Bool.eq_false_iff.1 elsewhere)]
    exact ⟨rfl, board.registers_after_write_of_elsewhere elsewhere value⟩
  · intro space
    rw [if_pos space, board.after_write_of_space space, Journal.write]
    refine ⟨?_, ?_, ?_⟩
    · intro abandons
      rw [if_pos abandons]
      exact ⟨rfl, board.registers_writeSerial_of_abandons address abandons⟩
    · intro keeps more
      rw [if_neg (Bool.eq_false_iff.1 keeps), if_pos more,
        writeSerial_of_more port address keeps more]
      exact ⟨rfl, rfl, board.face_of_port _ _⟩
    · intro keeps last
      have written := registers_writeSerial_of_last port address keeps last
      have length : (bits ++ [bit value 0]).length = 5 := by
        rw [List.length_append, last]
        rfl
      rw [numberOf_eq_sum, length, banks] at written
      rw [if_neg (Bool.eq_false_iff.1 keeps), if_neg (Nat.not_lt.2 (Nat.le_of_eq last.symm))]
      exact ⟨rfl, written⟩

/-- Four bits of a number for the program register, with a write to the memory of the board among
them. -/
def mixedAddresses : List Board.Action := [
  .write 0x8000 1, .write 0xC000 0, .write 0x6000 0xFF, .write 0xA000 1, .write 0xFFFF 0]

/-- The address of the fifth bit sends bank 5 to the low program window of a board with eight
banks. -/
theorem registers_of_bits_mixedAddresses :
    let board := powerOn ⟨8, 2⟩
    (Journal.of mixedAddresses).bits = [true, false, true, false] ∧
      (board.reset.run (mixedAddresses ++ [.write 0xE000 0])).registers
        = { board.registers with programLow := 5 } := by
  intro board
  have bits : (Journal.of mixedAddresses).bits = [true, false, true, false] := by decide +kernel
  have taken := (((registers_of_bits board mixedAddresses).2 0xE000 0).2 rfl).2.2 rfl
    (congrArg List.length bits)
  refine ⟨bits, taken.2.trans ?_⟩
  have before : (board.reset.run mixedAddresses).registers = board.registers := by rfl
  have number : ∑ index ∈ Finset.range 5,
      (([true, false, true, false] ++ [bit 0 0]).getD index false).toNat * 2 ^ index = 5 := by
    decide
  rw [bits, before, number]
  decide +kernel

end Nes.Mmc1
