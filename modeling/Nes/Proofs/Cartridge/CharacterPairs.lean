import Nes.Proofs.Cartridge.BankWindows

/-!
# Pairs of character windows

The first two bank registers of board 4 have two character windows each, which together are to show
one block of 2 KiB. The board drops the low bit of the register for the first window of a pair and
not for the second, so the two show one block for even numbers only. For an odd number the second
window shows the start of the next block (`Mmc3.showsBlock_of_history`).
-/
namespace Nes.Mmc3

/-- Two adjacent windows show one block of 2 KiB, whose offset is a multiple of its size. -/
structure ShowsBlock (board : Mmc3) (window : UInt16) : Prop where
  /-- The block is aligned. -/
  aligned : ∃ start, board.characterRead window = some start ∧ 0x800 ∣ start
  /-- Its second half comes right after the first. -/
  contiguous : ∀ offset : UInt16, offset < 0x400 →
    ∃ place, board.characterRead (window + offset) = some place ∧
      board.characterRead (window + 0x400 + offset) = some (place + 0x400)

namespace Setting

variable (setting : Setting) (second : Bool)

/-- The number in the register of the first or the second pair of windows. -/
def pairNumber : Nat := setting.registers (if second then 1 else 0)

/-- Where the first or the second pair of windows is. -/
def pairWindow : UInt16 :=
  match setting.characterSwapped, second with
  | false, false => 0x0000
  | false, true => 0x0800
  | true, false => 0x1000
  | true, true => 0x1800

end Setting

/-- Bank data has been written, and no reset has followed. -/
def HasData (actions : List Board.Action) : Prop :=
  ∃ earlier data later, actions = earlier ++ data :: later ∧ WritesData data ∧
    Board.Action.reset ∉ later

/-- The journal forgets the latest write of bank data in a reset only. -/
theorem Journal.isSome_latest_after {journal : Journal} (known : journal.latest.isSome = true)
    {action : Board.Action} (noReset : action ≠ .reset) :
    (journal.after action).latest.isSome = true := by
  cases action with
  | write address value =>
    rw [Journal.after]
    split
    · rw [Journal.write]
      split
      · exact known
      · rfl
    · exact known
  | reset => exact absurd rfl noReset
  | countLine | acknowledge => exact known

/-- After a write of bank data the journal has a setting of that time. -/
theorem Journal.latest_of_hasData {actions : List Board.Action} (written : HasData actions) :
    ∃ setting, (Journal.of actions).latest = some setting := by
  obtain ⟨earlier, data, later, rfl, isData, noReset⟩ := written
  have noted : ((Journal.of earlier).after data).latest.isSome = true := by
    cases data with
    | write address value =>
      have odd : ¬address.toNat % 2 = 0 := by
        rw [isData.2]
        decide
      rw [Journal.after, if_pos isData.1, Journal.write, if_neg odd]
      rfl
    | reset | countLine | acknowledge => exact isData.elim
  rw [Journal.of, List.foldl_append, List.foldl_cons]
  apply Option.isSome_iff_exists.1
  change (later.foldl Journal.after ((Journal.of earlier).after data)).latest.isSome = true
  generalize (Journal.of earlier).after data = journal at noted ⊢
  induction later generalizing journal with
  | nil => exact noted
  | cons action later ih =>
    obtain ⟨notHere, notLater⟩ := List.ne_and_not_mem_of_not_mem_cons noReset
    exact ih notLater _ (Journal.isSome_latest_after noted notHere.symm)

/-- The windows of a pair show the banks of its register. -/
theorem Follows.showsPair {banks : BankCounts} {board : Mmc3} {journal : Journal}
    (follows : Follows banks board journal) {setting : Setting}
    (latest : journal.latest = some setting) (second : Bool) :
    board.ShowsCharacter (setting.pairWindow second) (setting.pairNumber second / 2 * 2) ∧
      board.ShowsCharacter (setting.pairWindow second + 0x400)
        (setting.pairNumber second + 1) := by
  have character (window : UInt16) (index : Fin 8) (place : window.toNat = index * 0x400) :
      board.ShowsCharacter window journal.characterBanks[index] :=
    follows.showsCharacter index.isLt place
  rw [Journal.characterBanks, latest] at character
  obtain ⟨registers, programSwapped, _ | _⟩ := setting <;> cases second
  · exact ⟨character 0x0000 0 (by decide), character (0x0000 + 0x400) 1 (by decide)⟩
  · exact ⟨character 0x0800 2 (by decide), character (0x0800 + 0x400) 3 (by decide)⟩
  · exact ⟨character 0x1000 4 (by decide), character (0x1000 + 0x400) 5 (by decide)⟩
  · exact ⟨character 0x1800 6 (by decide), character (0x1800 + 0x400) 7 (by decide)⟩

/-- A pair of windows shows one block just for even numbers. -/
theorem showsBlock_iff {board : Mmc3} {window : UInt16} {number : Nat}
    (first : board.ShowsCharacter window (number / 2 * 2))
    (second : board.ShowsCharacter (window + 0x400) (number + 1)) :
    board.ShowsBlock window ↔ number % 2 = 0 := by
  constructor
  · intro block
    obtain ⟨place, here, there⟩ := block.contiguous 0 (by decide)
    have low : place = number / 2 * 2 * 0x400 + (0 : UInt16).toNat :=
      Option.some.inj (here.symm.trans (first 0 (by decide)))
    have high : place + 0x400 = (number + 1) * 0x400 + (0 : UInt16).toNat :=
      Option.some.inj (there.symm.trans (second 0 (by decide)))
    omega
  · intro even
    constructor
    case aligned =>
      have start := first 0 (by decide)
      rw [UInt16.add_zero] at start
      have whole : number / 2 * 2 * 0x400 + (0 : UInt16).toNat = number / 2 * 0x800 := by
        rw [UInt16.toNat_zero]
        omega
      rw [whole] at start
      exact ⟨_, start, Nat.dvd_mul_left _ _⟩
    case contiguous =>
      intro offset inside
      have next : (number + 1) * 0x400 + offset.toNat
          = number / 2 * 2 * 0x400 + offset.toNat + 0x400 := by omega
      refine ⟨_, first offset inside, ?_⟩
      rw [← next]
      exact second offset inside

/-- After a reset, any actions, and bank data since the latest reset, the two windows of each of the
first two registers are where the mode bits put them at the latest write of bank data. They show one
aligned block of 2 KiB just if the number in the register is even: the first one shows the bank of
1 KiB that the number without its low bit names, the second one the bank after the whole number. -/
theorem showsBlock_of_history (start : Mmc3) {actions : List Board.Action}
    (written : HasData actions) :
    let board := start.reset.run actions
    ∃ setting, (Journal.of actions).latest = some setting ∧
      ∀ second : Bool,
        let window := setting.pairWindow second
        let number := setting.pairNumber second
        (board.ShowsBlock window ↔ number % 2 = 0) ∧
          board.ShowsCharacter window (number / 2 * 2) ∧
          board.ShowsCharacter (window + 0x400) (number + 1) := by
  intro board
  have follows : Follows start.banks board (.of actions) := (follows_reset start).run actions
  obtain ⟨setting, latest⟩ := Journal.latest_of_hasData written
  refine ⟨setting, latest, ?_⟩
  intro second window number
  obtain ⟨low, high⟩ := follows.showsPair latest second
  exact ⟨showsBlock_iff low high, low, high⟩

/-- The first register is given bank 5, the second one bank 6 in the other half. -/
def oddPair : List Board.Action :=
  [.write 0x8000 0, .write 0x8001 5, .write 0x8000 0x81, .write 0x8001 6]

/-- The even number has one block in its windows. The odd one has the first halves of two. -/
theorem showsBlock_of_history_oddPair :
    let board := (powerOn ⟨4, 8⟩).reset.run oddPair
    HasData oddPair ∧ board.ShowsBlock 0x1800 ∧ ¬board.ShowsBlock 0x1000 ∧
      board.characterRead 0x1000 = some 0x1000 ∧ board.characterRead 0x1400 = some 0x1800 := by
  intro board
  have written : HasData oddPair :=
    ⟨oddPair.take 3, .write 0x8001 6, [], rfl, ⟨by decide, by decide⟩, List.not_mem_nil⟩
  obtain ⟨setting, latest, pairs⟩ := showsBlock_of_history (powerOn ⟨4, 8⟩) written
  have known : (Journal.of oddPair).latest
      = some ⟨Function.update (Function.update (fun _ => 0) 0 5) 1 6, false, true⟩ := by rfl
  obtain rfl := Option.some.inj (latest.symm.trans known)
  obtain ⟨odd, low, high⟩ := pairs false
  obtain ⟨even, -⟩ := pairs true
  exact ⟨written, even.2 rfl, mt odd.1 (by decide), low 0 (by decide), high 0 (by decide)⟩

end Nes.Mmc3
