import Mathlib.Logic.Function.Basic
import Nes.Proofs.Cartridge.BoardUse

/-!
# The windows of board 4

Board 4 keeps the offsets of its windows, and works them out where a bank register is written. So
the windows do not follow the registers and the mode bits as they are, but as they stood at the
latest such write. What stood there is read off the processor's writes alone (`Mmc3.Journal`), with
the banks that the windows are to show (`Journal.programBanks`, `Journal.characterBanks`). The board
follows that journal through any writes, lines and resets (`Mmc3.Follows`), so its windows are known
from the history (`Mmc3.windows_of_history`).
-/
namespace Nes.Mmc3

/-- The bank registers and the mode bits at one time. -/
structure Setting where
  /-- The numbers in the eight bank registers. -/
  registers : Fin 8 → Nat
  /-- The switched and the fixed program window have changed places. -/
  programSwapped : Bool
  /-- The two halves of character memory have changed places. -/
  characterSwapped : Bool

/-- What the processor has told the board. -/
structure Journal where
  /-- The register that the latest mode write named. -/
  target : Fin 8
  /-- The registers and mode bits as they are. -/
  current : Setting
  /-- What they were at the latest write of bank data. -/
  latest : Option Setting

namespace Journal

/-- The journal at power-on and after a reset. -/
def start : Journal := ⟨0, ⟨fun _ => 0, false, false⟩, none⟩

/-- A write to the registers of the windows: an even address names a register and sets the mode
bits, an odd one gives the register that is named a number. -/
def write (journal : Journal) (address : UInt16) (value : UInt8) : Journal :=
  if address.toNat % 2 = 0 then
    { journal with
      target := ⟨value.toNat % 8, Nat.mod_lt _ (by decide)⟩
      current := { journal.current with
        programSwapped := bit value 6, characterSwapped := bit value 7 } }
  else
    let current := { journal.current with
      registers := Function.update journal.current.registers journal.target value.toNat }
    { journal with current, latest := some current }

/-- The journal after an action. -/
def after (journal : Journal) : Board.Action → Journal
  | .write address value =>
    if 0x8000 ≤ address ∧ address < 0xA000 then journal.write address value else journal
  | .reset => start
  | .countLine | .acknowledge => journal

/-- The journal of all actions since power-on. -/
def of (actions : List Board.Action) : Journal := actions.foldl after start

/-- The banks in the four program windows, of a program memory of `count` banks of 16 KiB. -/
def programBanks (journal : Journal) (count : Nat) : Vector Nat 4 :=
  match journal.latest with
  | none => #v[0, 1, 2 * count - 2, 2 * count - 1]
  | some ⟨registers, true, _⟩ =>
    #v[2 * count - 2, registers 7 % 64, registers 6 % 64, 2 * count - 1]
  | some ⟨registers, false, _⟩ =>
    #v[registers 6 % 64, registers 7 % 64, 2 * count - 2, 2 * count - 1]

/-- The last program window shows the last bank, whatever has been written. -/
theorem programBanks_last (journal : Journal) (count : Nat) :
    (journal.programBanks count).get 3 = 2 * count - 1 := by
  rw [programBanks]
  split <;> rfl

/-- The banks in the eight character windows. The first two registers have two windows each; the low
bit of the register has no meaning for the first one of them. -/
def characterBanks (journal : Journal) : Vector Nat 8 :=
  match journal.latest with
  | none => Vector.replicate 8 0
  | some ⟨registers, _, true⟩ =>
    #v[registers 2, registers 3, registers 4, registers 5,
      registers 0 / 2 * 2, registers 0 + 1, registers 1 / 2 * 2, registers 1 + 1]
  | some ⟨registers, _, false⟩ =>
    #v[registers 0 / 2 * 2, registers 0 + 1, registers 1 / 2 * 2, registers 1 + 1,
      registers 2, registers 3, registers 4, registers 5]

end Journal

/-- The number in a bank register. -/
def bankRegister (board : Mmc3) (index : Nat) : Nat := (board.registers.read index).toNat

/-- The registers and mode bits of a board. -/
def setting (board : Mmc3) : Setting :=
  ⟨fun index => board.bankRegister index, board.programSwapped, board.characterSwapped⟩

/-- A window counted from the end of program memory starts where its bank does. -/
theorem toNat_programFromEnd (banks : BankCounts) (count : Nat) :
    (programFromEnd banks count).toNat = (2 * banks.program.toNat - count) * 0x2000 := by
  have bound := banks.program.toNat_lt
  rw [programFromEnd, UInt32.toNat_mul]
  change (banks.program.toNat * 2 - count) % 2 ^ 32 * 0x2000 % 2 ^ 32 = _
  omega

section Offsets

variable (board : Mmc3) (index : Nat)

/-- A register is widened to an offset without loss. -/
theorem toNat_register : (board.register index).toNat = board.bankRegister index :=
  UInt8.toNat_toUInt32 _

/-- A bank register holds a byte. -/
theorem bankRegister_lt : board.bankRegister index < 256 := (board.registers.read _).toNat_lt

/-- A program window is chosen by six bits. -/
theorem toNat_programWindow :
    ((board.register index &&& 0x3F) * programWindowSize).toNat
      = board.bankRegister index % 64 * 0x2000 := by
  have low : (board.register index &&& 0x3F).toNat = board.bankRegister index % 64 := by
    rw [UInt32.toNat_and, toNat_register]
    exact Nat.and_two_pow_sub_one_eq_mod _ 6
  rw [UInt32.toNat_mul, low]
  change _ * 0x2000 % 2 ^ 32 = _
  omega

/-- A character window is chosen by all bits of its register. -/
theorem toNat_characterWindow :
    (board.register index * characterWindowSize).toNat = board.bankRegister index * 0x400 := by
  have bound := board.bankRegister_lt index
  rw [UInt32.toNat_mul, toNat_register]
  change _ * 0x400 % 2 ^ 32 = _
  omega

/-- The first window of a pair drops the low bit. -/
theorem toNat_firstOfPair :
    ((board.register index &&& 0xFE) * characterWindowSize).toNat
      = board.bankRegister index / 2 * 2 * 0x400 := by
  have every : ∀ number < 256, number &&& 0xFE = number / 2 * 2 := by decide +kernel
  have bound := board.bankRegister_lt index
  have even : (board.register index &&& 0xFE).toNat = board.bankRegister index / 2 * 2 := by
    rw [UInt32.toNat_and, toNat_register]
    exact every _ bound
  rw [UInt32.toNat_mul, even]
  change _ * 0x400 % 2 ^ 32 = _
  omega

/-- The second one does not. -/
theorem toNat_secondOfPair :
    (board.register index * characterWindowSize + characterWindowSize).toNat
      = (board.bankRegister index + 1) * 0x400 := by
  have bound := board.bankRegister_lt index
  rw [UInt32.toNat_add, toNat_characterWindow]
  change (_ + 0x400) % 2 ^ 32 = _
  omega

end Offsets

/-- Working the windows out puts the banks of the registers and mode bits into them. -/
theorem windows_mapWindows (board : Mmc3) (target : Fin 8) :
    let journal : Journal := ⟨target, board.setting, some board.setting⟩
    board.mapWindows.programWindows.map UInt32.toNat
        = (journal.programBanks board.banks.program.toNat).map (· * 0x2000) ∧
      board.mapWindows.characterWindows.map UInt32.toNat
        = journal.characterBanks.map (· * 0x400) := by
  simp only [mapWindows, setting, Journal.programBanks, Journal.characterBanks]
  constructor
  · cases board.programSwapped <;>
      simp only [if_true, Bool.false_eq_true, if_false, Vector.map_mk, List.map_toArray,
        List.map_cons, List.map_nil, toNat_programWindow, toNat_programFromEnd] <;> rfl
  · cases board.characterSwapped <;>
      simp only [if_true, Bool.false_eq_true, if_false, Vector.map_mk, List.map_toArray,
        List.map_cons, List.map_nil, toNat_firstOfPair, toNat_secondOfPair,
        toNat_characterWindow] <;> rfl

/-- The board holds what the journal says. -/
structure Follows (banks : BankCounts) (board : Mmc3) (journal : Journal) : Prop where
  /-- The bank counts are those of the cartridge. -/
  banks_eq : board.banks = banks
  /-- The next data write goes to the register that was named last. -/
  target : board.target.toNat = journal.target
  /-- The registers and mode bits are those that were written last. -/
  current : board.setting = journal.current
  /-- The program windows show what they showed at the latest data write. -/
  program : board.programWindows.map UInt32.toNat
    = (journal.programBanks banks.program.toNat).map (· * 0x2000)
  /-- So do the character windows. -/
  character : board.characterWindows.map UInt32.toNat = journal.characterBanks.map (· * 0x400)

/-- A reset board starts a journal anew. -/
theorem follows_reset (board : Mmc3) : Follows board.banks board.reset .start where
  banks_eq := rfl
  target := rfl
  current := by
    have zero (index : Fin 8) : board.reset.bankRegister index = 0 :=
      congrArg UInt8.toNat (Memory.read_zeros _)
    exact congrArg (fun registers => (⟨registers, false, false⟩ : Setting)) (funext zero)
  program := by
    simp only [reset, Journal.programBanks, Journal.start, Vector.map_mk, List.map_toArray,
      List.map_cons, List.map_nil, toNat_programFromEnd]
    rfl
  character := by
    change (Vector.replicate 8 (0 : UInt32)).map UInt32.toNat
      = (Vector.replicate 8 0).map (· * 0x400)
    rw [Vector.map_replicate, Vector.map_replicate]
    rfl

/-- The bank registers after one has been given a number. -/
theorem bankRegister_write (board : Mmc3) (index : Fin 8) (value : UInt8) {target : Fin 8}
    (same : board.target.toNat = target) :
    { board with registers := board.registers.write board.target.toNat value }.bankRegister index
      = Function.update (fun index : Fin 8 => board.bankRegister index) target value.toNat
          index := by
  rw [same, bankRegister]
  by_cases here : index = target
  · subst here
    rw [Function.update_self, Memory.read_write_of_same_cell _ _ rfl]
  · have other : target.val % 8 ≠ index.val % 8 := by
      rw [Nat.mod_eq_of_lt target.isLt, Nat.mod_eq_of_lt index.isLt]
      exact fun equal => here (Fin.ext equal.symm)
    rw [Function.update_of_ne here, Memory.read_write_of_other_cell _ _ other]
    rfl

variable {banks : BankCounts} {board : Mmc3} {journal : Journal}

/-- At the registers of the windows, even addresses take the mode and odd ones bank data. -/
theorem writeRegister_of_windows (board : Mmc3) {address : UInt16}
    (space : 0x8000 ≤ address ∧ address < 0xA000) (value : UInt8) :
    board.writeRegister address value =
      if address.toNat % 2 = 0 then
        { board with
          target := value &&& 0x07
          programSwapped := bit value 6
          characterSwapped := bit value 7 }
      else
        { board with registers := board.registers.write board.target.toNat value }.mapWindows := by
  have lower : 0x8000 ≤ address.toNat := UInt16.le_iff_toNat_le.1 space.1
  have upper : address.toNat < 0xA000 := UInt16.lt_iff_toNat_lt.1 space.2
  have fourteen : wordBit address 14 = false := by
    rw [wordBit, Nat.testBit_eq_decide_div_mod_eq, decide_eq_false_iff_not]
    omega
  have thirteen : wordBit address 13 = false := by
    rw [wordBit, Nat.testBit_eq_decide_div_mod_eq, decide_eq_false_iff_not]
    omega
  have lowest : wordBit address 0 = decide (address.toNat % 2 = 1) := by
    rw [wordBit, Nat.testBit_eq_decide_div_mod_eq, Nat.pow_zero, Nat.div_one]
  rw [writeRegister, fourteen, thirteen, lowest]
  by_cases even : address.toNat % 2 = 0
  · have notOdd : ¬address.toNat % 2 = 1 := by omega
    rw [if_pos even, decide_eq_false notOdd]
  · have odd : address.toNat % 2 = 1 := by omega
    rw [if_neg even, decide_eq_true odd]

/-- A write to the registers of the windows is one to the journal. -/
theorem Follows.write (follows : Follows banks board journal) {address : UInt16}
    (space : 0x8000 ≤ address ∧ address < 0xA000) (value : UInt8) :
    Follows banks (board.writeRegister address value) (journal.write address value) := by
  obtain ⟨banks_eq, target, current, program, character⟩ := follows
  rw [writeRegister_of_windows board space, Journal.write]
  by_cases even : address.toNat % 2 = 0
  · rw [if_pos even, if_pos even]
    constructor
    case banks_eq => exact banks_eq
    case target =>
      change (value &&& 0x07).toNat = value.toNat % 8
      rw [UInt8.toNat_and]
      exact Nat.and_two_pow_sub_one_eq_mod _ 3
    case current =>
      exact congrArg (fun setting : Setting =>
        { setting with programSwapped := bit value 6, characterSwapped := bit value 7 }) current
    case program => exact program
    case character => exact character
  · rw [if_neg even, if_neg even]
    let written : Mmc3 := { board with registers := board.registers.write board.target.toNat value }
    have setting : written.setting = { journal.current with
        registers := Function.update journal.current.registers journal.target value.toNat } := by
      rw [← current]
      exact congrArg
        (fun registers => (⟨registers, board.programSwapped, board.characterSwapped⟩ : Setting))
        (funext fun index => board.bankRegister_write index value target)
    have windows := windows_mapWindows written journal.target
    rw [setting] at windows
    constructor
    case banks_eq => exact banks_eq
    case target => exact target
    case current => exact setting
    case program =>
      rw [← banks_eq]
      exact windows.1
    case character => exact windows.2

/-- Board 4 after an action. -/
def after (board : Mmc3) : Board.Action → Mmc3
  | .write address value => (board.write address value).2
  | .countLine => board.countLine
  | .reset => board.reset
  | .acknowledge => board.acknowledge

/-- Board 4 after actions in order. -/
def run (board : Mmc3) (actions : List Board.Action) : Mmc3 := actions.foldl after board

/-- A run of board 4 is one of the board as the cartridge sees it. -/
theorem board_run (board : Mmc3) (actions : List Board.Action) :
    (Board.mmc3 board).run actions = .mmc3 (board.run actions) := by
  have step (board : Mmc3) (action : Board.Action) :
      (Board.mmc3 board).after action = .mmc3 (board.after action) := by
    cases action <;> rfl
  exact List.foldl_hom Board.mmc3 step

/-- The board without the parts that its windows have nothing to do with. -/
def windowPart (board : Mmc3) : Mmc3 :=
  { board with
    mirroring := none
    irqPending := false
    irqEnabled := false
    irqCounter := 0
    irqReload := 0
    ram := Memory.zeros _ }

/-- The upper six registers are not for the windows. -/
theorem windowPart_writeRegister (board : Mmc3) {address : UInt16} (space : 0x8000 ≤ address)
    (beyond : ¬address < 0xA000) (value : UInt8) :
    (board.writeRegister address value).windowPart = board.windowPart := by
  have bound := address.toNat_lt
  have lower : 0x8000 ≤ address.toNat := UInt16.le_iff_toNat_le.1 space
  have upper : ¬address.toNat < 0xA000 := fun below => beyond (UInt16.lt_iff_toNat_lt.2 below)
  have named : wordBit address 14 = true ∨ wordBit address 13 = true := by
    simp only [wordBit, Nat.testBit_eq_decide_div_mod_eq, decide_eq_true_iff]
    omega
  rw [writeRegister]
  rcases fourteen : wordBit address 14 <;> rcases thirteen : wordBit address 13 <;>
    rcases wordBit address 0
  case false.false.false | false.false.true =>
    rw [fourteen, thirteen] at named
    exact absurd named (by decide)
  all_goals rfl

/-- What the windows depend on changes by resets and by writes at `8000` to `9FFF` only. -/
theorem windowPart_after (board : Mmc3) {action : Board.Action} (noReset : action ≠ .reset)
    (other : ∀ address value, action = .write address value →
      ¬(0x8000 ≤ address ∧ address < 0xA000)) :
    (board.after action).windowPart = board.windowPart := by
  cases action with
  | write address value =>
    rw [Mmc3.after, Mmc3.write]
    by_cases memory : inBoardMemory address = true
    · rw [if_pos memory]
      rfl
    rw [if_neg memory]
    by_cases shown : inProgramSpace address = true
    · have space : 0x8000 ≤ address := of_decide_eq_true shown
      rw [if_pos shown]
      exact board.windowPart_writeRegister space
        (fun below => other address value rfl ⟨space, below⟩) value
    · rw [if_neg shown]
  | reset => exact absurd rfl noReset
  | countLine => rfl
  | acknowledge => rfl

/-- A write of bank data: an odd address from `8000` to `9FFF`. -/
def WritesData : Board.Action → Prop
  | .write address _ => (0x8000 ≤ address ∧ address < 0xA000) ∧ address.toNat % 2 = 1
  | _ => False

/-- The registers of the windows take a write. -/
theorem after_write_of_windows (board : Mmc3) {address : UInt16}
    (space : 0x8000 ≤ address ∧ address < 0xA000) (value : UInt8) :
    board.after (.write address value) = board.writeRegister address value := by
  have program : inProgramSpace address = true := decide_eq_true space.1
  have notMemory := Bool.eq_false_iff.1 (inBoardMemory_of_program program)
  rw [after, write, if_neg notMemory, if_pos program]

/-- Without a write of bank data or a reset, the windows and the bank registers stay. -/
theorem after_of_no_data (board : Mmc3) {action : Board.Action} (noReset : action ≠ .reset)
    (noData : ¬WritesData action) :
    (board.after action).programWindows = board.programWindows ∧
      (board.after action).characterWindows = board.characterWindows ∧
      (board.after action).registers = board.registers := by
  by_cases other : ∀ address value, action = .write address value →
      ¬(0x8000 ≤ address ∧ address < 0xA000)
  · have same := board.windowPart_after noReset other
    exact ⟨congrArg (·.programWindows) same, congrArg (·.characterWindows) same,
      congrArg (·.registers) same⟩
  · simp only [not_forall, not_not] at other
    obtain ⟨address, value, rfl, space⟩ := other
    have even : ¬address.toNat % 2 = 1 := fun odd => noData ⟨space, odd⟩
    rw [board.after_write_of_windows space, writeRegister_of_windows board space, if_pos (by omega)]
    exact ⟨rfl, rfl, rfl⟩

/-- Boards that agree in the part for the windows follow one journal. -/
theorem Follows.of_windowPart (follows : Follows banks board journal) {next : Mmc3}
    (same : next.windowPart = board.windowPart) : Follows banks next journal := by
  have part : Follows banks board.windowPart journal :=
    ⟨follows.banks_eq, follows.target, follows.current, follows.program, follows.character⟩
  rw [← same] at part
  exact ⟨part.banks_eq, part.target, part.current, part.program, part.character⟩

/-- The board goes on following the journal. -/
theorem Follows.after (follows : Follows banks board journal) (action : Board.Action) :
    Follows banks (board.after action) (journal.after action) := by
  cases action with
  | write address value =>
    by_cases space : 0x8000 ≤ address ∧ address < 0xA000
    · rw [board.after_write_of_windows space, Journal.after, if_pos space]
      exact follows.write space value
    · rw [Journal.after, if_neg space]
      apply follows.of_windowPart
      apply board.windowPart_after Board.Action.noConfusion
      rintro _ _ ⟨⟩
      exact space
  | reset =>
    have start := follows_reset board
    rw [follows.banks_eq] at start
    exact start
  | countLine => exact follows.of_windowPart rfl
  | acknowledge => exact follows.of_windowPart rfl

/-- After any actions the board holds what the journal of the actions says. -/
theorem Follows.run (follows : Follows banks board journal) (actions : List Board.Action) :
    Follows banks (board.run actions) (actions.foldl Journal.after journal) := by
  induction actions generalizing board journal with
  | nil => exact follows
  | cons action actions ih => exact ih (follows.after action)

/-- The 8 KiB window at an address shows a bank of program memory. -/
def ShowsProgram (board : Mmc3) (window : UInt16) (bank : Nat) : Prop :=
  ∀ offset : UInt16, offset < 0x2000 →
    board.readTarget (window + offset) = some (.program (bank * 0x2000 + offset.toNat))

/-- The 1 KiB window at an address shows a bank of character memory. -/
def ShowsCharacter (board : Mmc3) (window : UInt16) (bank : Nat) : Prop :=
  ∀ offset : UInt16, offset < 0x400 →
    board.characterRead (window + offset) = some (bank * 0x400 + offset.toNat)

/-- The program windows show the banks of the journal. -/
theorem Follows.showsProgram (follows : Follows banks board journal) {window : UInt16} {index : Nat}
    (inside : index < 4) (place : window.toNat = 0x8000 + index * 0x2000) :
    board.ShowsProgram window (journal.programBanks banks.program.toNat)[index] := by
  intro offset below
  have bound : offset.toNat < 0x2000 := UInt16.lt_iff_toNat_lt.1 below
  have sum : (window + offset).toNat = 0x8000 + index * 0x2000 + offset.toNat := by
    rw [UInt16.toNat_add, place]
    omega
  have space : inProgramSpace (window + offset) = true := by
    apply decide_eq_true
    apply UInt16.le_iff_toNat_le.2
    change 0x8000 ≤ _
    omega
  have notMemory := Bool.eq_false_iff.1 (inBoardMemory_of_program space)
  have which : (window + offset).toNat / 0x2000 % 4 = index := by omega
  have rest : (window + offset).toNat % 0x2000 = offset.toNat := by omega
  have shown := congrArg (·[index]) follows.program
  simp only [Vector.getElem_map] at shown
  rw [readTarget, if_neg notMemory, if_pos space, programOffset]
  simp only [which, rest, shown]

/-- The character windows show the banks of the journal. -/
theorem Follows.showsCharacter (follows : Follows banks board journal) {window : UInt16}
    {index : Nat} (inside : index < 8) (place : window.toNat = index * 0x400) :
    board.ShowsCharacter window journal.characterBanks[index] := by
  intro offset below
  have bound : offset.toNat < 0x400 := UInt16.lt_iff_toNat_lt.1 below
  have sum : (window + offset).toNat = index * 0x400 + offset.toNat := by
    rw [UInt16.toNat_add, place]
    omega
  have space : inCharacterSpace (window + offset) = true := by
    apply decide_eq_true
    apply UInt16.lt_iff_toNat_lt.2
    change _ < 0x2000
    omega
  have which : (window + offset).toNat / 0x400 % 8 = index := by omega
  have rest : (window + offset).toNat % 0x400 = offset.toNat := by omega
  have shown := congrArg (·[index]) follows.character
  simp only [Vector.getElem_map] at shown
  rw [characterRead, if_pos space, characterOffset]
  simp only [which, rest, shown]

/-- After a reset and any actions, the windows show the banks of the registers and mode bits as they
stood at the latest write of bank data since the latest reset, or the banks of the reset where there
has been none. The last program window always shows the last bank. No other action but a reset
moves a window, and the write of bank data reaches the one register that was named last. -/
theorem windows_of_history (start : Mmc3) (actions : List Board.Action) :
    let board := start.reset.run actions
    let journal := Journal.of actions
    let count := start.banks.program.toNat
    (Board.mmc3 start.reset).run actions = .mmc3 board ∧
    board.ShowsProgram 0xE000 (2 * count - 1) ∧
    (match journal.latest with
      | none =>
        board.ShowsProgram 0x8000 0 ∧ board.ShowsProgram 0xA000 1 ∧
          board.ShowsProgram 0xC000 (2 * count - 2) ∧
          ∀ index : UInt16, index < 8 → board.ShowsCharacter (index * 0x400) 0
      | some ⟨registers, programSwapped, characterSwapped⟩ =>
        let switched := if programSwapped then 0xC000 else 0x8000
        let fixed := if programSwapped then 0x8000 else 0xC000
        let singles := if characterSwapped then 0x0000 else 0x1000
        let pairs := if characterSwapped then 0x1000 else 0x0000
        board.ShowsProgram 0xA000 (registers 7 % 64) ∧
          board.ShowsProgram switched (registers 6 % 64) ∧
          board.ShowsProgram fixed (2 * count - 2) ∧
          board.ShowsCharacter singles (registers 2) ∧
          board.ShowsCharacter (singles + 0x400) (registers 3) ∧
          board.ShowsCharacter (singles + 0x800) (registers 4) ∧
          board.ShowsCharacter (singles + 0xC00) (registers 5) ∧
          board.ShowsCharacter pairs (registers 0 / 2 * 2) ∧
          board.ShowsCharacter (pairs + 0x400) (registers 0 + 1) ∧
          board.ShowsCharacter (pairs + 0x800) (registers 1 / 2 * 2) ∧
          board.ShowsCharacter (pairs + 0xC00) (registers 1 + 1)) ∧
    (∀ action, action ≠ .reset → ¬WritesData action → ∀ address,
      (board.after action).programOffset address = board.programOffset address ∧
        (board.after action).characterOffset address = board.characterOffset address) ∧
    ∀ address value, WritesData (.write address value) → ∀ index : Fin 8,
      (board.after (.write address value)).bankRegister index
        = if index = journal.target then value.toNat else board.bankRegister index := by
  intro board journal count
  have follows : Follows start.banks board journal := (follows_reset start).run actions
  have program (window : UInt16) (index : Fin 4)
      (place : window.toNat = 0x8000 + index * 0x2000) :
      board.ShowsProgram window (journal.programBanks count)[index] :=
    follows.showsProgram index.isLt place
  have character (window : UInt16) (index : Fin 8) (place : window.toNat = index * 0x400) :
      board.ShowsCharacter window journal.characterBanks[index] :=
    follows.showsCharacter index.isLt place
  refine ⟨board_run _ actions, ?_, ?_, ?_, ?_⟩
  · rw [← journal.programBanks_last count]
    exact program 0xE000 3 (by decide)
  · rw [Journal.programBanks] at program
    rw [Journal.characterBanks] at character
    generalize journal.latest = latest at program character ⊢
    rcases latest with _ | ⟨registers, programSwapped, characterSwapped⟩
    · refine ⟨program 0x8000 0 (by decide), program 0xA000 1 (by decide),
        program 0xC000 2 (by decide), ?_⟩
      intro index inside
      have below : index.toNat < 8 := UInt16.lt_iff_toNat_lt.1 inside
      have shown := character (index * 0x400) ⟨index.toNat, below⟩ (by
        rw [UInt16.toNat_mul]
        change _ * 0x400 % 2 ^ 16 = index.toNat * 0x400
        omega)
      simpa using shown
    · dsimp only
      refine ⟨?_, ?_, ?_, ?_⟩
      · cases programSwapped <;> exact program 0xA000 1 (by decide)
      · cases programSwapped
        · exact program 0x8000 0 (by decide)
        · exact program 0xC000 2 (by decide)
      · cases programSwapped
        · exact program 0xC000 2 (by decide)
        · exact program 0x8000 0 (by decide)
      · cases characterSwapped
        · exact ⟨character 0x1000 4 (by decide), character 0x1400 5 (by decide),
            character 0x1800 6 (by decide), character 0x1C00 7 (by decide),
            character 0x0000 0 (by decide), character 0x0400 1 (by decide),
            character 0x0800 2 (by decide), character 0x0C00 3 (by decide)⟩
        · exact ⟨character 0x0000 0 (by decide), character 0x0400 1 (by decide),
            character 0x0800 2 (by decide), character 0x0C00 3 (by decide),
            character 0x1000 4 (by decide), character 0x1400 5 (by decide),
            character 0x1800 6 (by decide), character 0x1C00 7 (by decide)⟩
  · intro action noReset noData address
    obtain ⟨programSame, characterSame, -⟩ := board.after_of_no_data noReset noData
    rw [programOffset, programOffset, characterOffset, characterOffset]
    simp only [programSame, characterSame, and_self]
  · intro address value data index
    have odd : ¬address.toNat % 2 = 0 := by
      rw [data.2]
      decide
    rw [board.after_write_of_windows data.1, writeRegister_of_windows board data.1, if_neg odd]
    exact (board.bankRegister_write index value follows.target).trans (Function.update_apply ..)

/-- Bank 5 is chosen for the switched program window, and then that window is given its other
place. -/
def modeAfterData : List Board.Action := [.write 0x8000 6, .write 0x8001 5, .write 0x9FFE 0x46]

/-- On a board with four program banks the windows stay where they are until bank data is written
anew. -/
theorem windows_of_history_modeAfterData :
    let board := (powerOn ⟨4, 1⟩).reset.run modeAfterData
    board.programSwapped = true ∧ board.ShowsProgram 0x8000 5 ∧ board.ShowsProgram 0xC000 6 ∧
      ((board.after (.write 0x8001 5)).ShowsProgram 0xC000 5 ∧
        (board.after (.write 0x8001 5)).ShowsProgram 0x8000 6) := by
  intro board
  have latest : (Journal.of modeAfterData).latest
      = some ⟨Function.update (fun _ => 0) 6 5, false, false⟩ := by rfl
  have anew : (Journal.of (modeAfterData ++ [.write 0x8001 5])).latest
      = some ⟨Function.update (Function.update (fun _ => 0) 6 5) 6 5, true, false⟩ := by rfl
  have before := (windows_of_history (powerOn ⟨4, 1⟩) modeAfterData).2.2.1
  have later := (windows_of_history (powerOn ⟨4, 1⟩) (modeAfterData ++ [.write 0x8001 5])).2.2.1
  rw [latest] at before
  rw [anew] at later
  exact ⟨by decide +kernel, before.2.1, before.2.2.1, later.2.1, later.2.2.1⟩

end Nes.Mmc3
