import Nes.Proofs.Cartridge.Accepted

/-!
# Writable character memory

A cartridge without character banks has one bank of memory instead. Boards translate a read and a
write of it by two functions, and these agree on some boards only: boards 3 and 66 refuse every
write, and board 4 reads through its windows but writes past them. The byte that the picture chip
writes is read back exactly where the two translations meet.
-/
namespace Nes

namespace Board

/-- The board lets the picture chip write character memory if there is no bank of it. -/
def takesCharacterWrites : Board → Bool
  | cnrom _ | gxrom _ => false
  | _ => true

/-- The offset in writable character memory that a read reaches. -/
def ramReadOffset (board : Board) (address : UInt16) : Nat :=
  match board with
  | nrom _ | mmc1 _ | uxrom _ => address.toNat
  | cnrom board => board.character.toNat * characterBankSize + address.toNat
  | mmc3 board => board.characterOffset address
  | gxrom board => board.character.toNat * characterBankSize + address.toNat

/-- The byte that the picture chip writes to character memory at an address is the one that it
reads there. -/
def ReadsWhereWritten (board : Board) (address : UInt16) : Prop :=
  match board with
  | nrom _ | mmc1 _ | uxrom _ => True
  | cnrom _ | gxrom _ => False
  | mmc3 board => board.characterOffset address % characterBankSize = address.toNat

instance (board : Board) (address : UInt16) : Decidable (board.ReadsWhereWritten address) := by
  cases board <;> unfold ReadsWhereWritten <;> infer_instance

section NoBanks

variable {board : Board} {address : UInt16} (ram : board.banks.character = 0)
  (inside : address < 0x2000)

include ram inside

/-- Without character banks a write reaches the offset of its own address, or is refused. -/
theorem characterWrite_of_ram :
    board.characterWrite address
      = if board.takesCharacterWrites then some address.toNat else none := by
  have reached : board.banks.writableCharacter address = some address.toNat := by
    rw [BankCounts.writableCharacter, if_pos ⟨inside, ram⟩]
  cases board
  case cnrom | gxrom => rfl
  all_goals exact reached

/-- Without character banks every read of the character space is claimed. -/
theorem characterRead_of_ram :
    board.characterRead address = some (board.ramReadOffset address) := by
  have claimed : inCharacterSpace address = true := decide_eq_true inside
  cases board
  case mmc1 board =>
    have none : board.banks.character = 0 := ram
    simp only [characterRead, Mmc1.characterRead, if_pos claimed, if_pos none, ramReadOffset]
  all_goals
    simp only [characterRead, Nrom.characterRead, Uxrom.characterRead, Cnrom.characterRead,
      Gxrom.characterRead, Mmc3.characterRead, if_pos claimed, ramReadOffset]

omit ram in
/-- The two translations meet where a write is taken and the read comes round to its offset. -/
theorem readsWhereWritten_iff :
    board.ReadsWhereWritten address ↔ board.takesCharacterWrites = true ∧
      board.ramReadOffset address % characterBankSize = address.toNat := by
  have bound : address.toNat < 0x2000 := UInt16.lt_iff_toNat_lt.1 inside
  have own : address.toNat % characterBankSize = address.toNat := Nat.mod_eq_of_lt bound
  cases board <;> simp [ReadsWhereWritten, takesCharacterWrites, ramReadOffset, own]

end NoBanks

end Board

namespace Cartridge

/-- The picture chip writes a byte at an address and reads the same byte there. -/
def ReadsBack (cartridge : Cartridge) (address : UInt16) (value : UInt8) : Prop :=
  (cartridge.writeCharacter address value).1 = true ∧
    (cartridge.writeCharacter address value).2.readCharacter address = some value

/-- Writable character memory of a well-made cartridge reads back where the translations of its
board meet. -/
theorem readsBack_iff_of_wellMade {cartridge : Cartridge} (wellMade : WellMade cartridge)
    (ram : cartridge.characterIsRam = true) {address : UInt16} (inside : address < 0x2000) :
    (∀ value, cartridge.ReadsBack address value) ↔ cartridge.board.ReadsWhereWritten address := by
  have none : cartridge.board.banks.character = 0 := by
    rw [wellMade.boardBanks]
    exact eq_of_beq ram
  have size := wellMade.character_eq ram
  have nonempty : 0 < cartridge.character.size := by
    rw [size]
    decide
  have written := Board.characterWrite_of_ram none inside
  have read := Board.characterRead_of_ram none inside
  have bound : address.toNat < characterBankSize := UInt16.lt_iff_toNat_lt.1 inside
  have own : address.toNat % characterBankSize = address.toNat := Nat.mod_eq_of_lt bound
  rw [Board.readsWhereWritten_iff inside]
  by_cases taken : cartridge.board.takesCharacterWrites = true
  · rw [if_pos taken] at written
    simp only [ReadsBack, writeCharacter, written, readCharacter, read, Option.map_some, taken,
      true_and, Option.some_inj]
    constructor
    · -- a byte other than the one in the place read tells the two places apart
      intro readBack
      apply Decidable.byContradiction
      intro apart
      have other : address.toNat % cartridge.character.size
          ≠ cartridge.board.ramReadOffset address % cartridge.character.size := by
        rw [size, own]
        exact Ne.symm apart
      let kept := wrappedGet cartridge.character (cartridge.board.ramReadOffset address)
      have found := readBack (kept + 1)
      rw [wrappedGet_wrappedSet_of_other_cell _ other] at found
      have impossible : kept ≠ kept + 1 := by
        intro same
        have counted := congrArg UInt8.toNat same
        rw [UInt8.toNat_add] at counted
        have small := kept.toNat_lt
        change _ = (_ + 1) % 2 ^ 8 at counted
        omega
      exact impossible found
    · intro meet value
      apply wrappedGet_wrappedSet_of_same_cell nonempty
      rw [size, own, meet]
  · rw [if_neg taken] at written
    constructor
    · intro readBack
      have claimed := (readBack 0).1
      simp only [writeCharacter, written] at claimed
      cases claimed
    · intro both
      exact absurd both.1 taken

/-- After any use of an accepted cartridge without character banks, the picture chip reads back
every byte that it writes at an address exactly where the translations of the board meet: always
on boards 0, 1 and 2, never on boards 3 and 66, and on board 4 where the window that is read
shows the offset that is written. -/
theorem readsBack_iff {cartridge : Cartridge} (accepted : Accepted cartridge)
    (ram : cartridge.characterIsRam = true) (actions : List Action) {address : UInt16}
    (inside : address < 0x2000) :
    (∀ value, (cartridge.run actions).ReadsBack address value) ↔
      (cartridge.run actions).board.ReadsWhereWritten address := by
  have wellMade := kept_wellMade.run accepted.wellMade actions
  have banks : (cartridge.run actions).banks = cartridge.banks :=
    congrArg Make.banks (cartridge.make_run actions)
  have stillRam : (cartridge.run actions).characterIsRam = true := by
    rw [characterIsRam, banks]
    exact ram
  exact readsBack_iff_of_wellMade wellMade stillRam inside

/-- Board 4 reads back a byte of the second KiB once bank data has been written. -/
theorem readsBack_bareMmc3_of_bankData :
    (bareMmc3.run [.write 0x8000 0, .write 0x8001 0]).ReadsBack 0x0410 0x5A :=
  (readsBack_iff accepted_bareMmc3 (by decide) _ (by decide)).2 (by decide) 0x5A

end Cartridge

end Nes
