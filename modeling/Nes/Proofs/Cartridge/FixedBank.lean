import Nes.Proofs.Cartridge.ImageParts

/-!
# The fixed bank of program memory

Boards 2 and 4 keep a bank in view at the end of the processor's addresses, where the interrupt
vectors lie. No use of the board moves it (`Board.FixesEnd`), and neither board lets program memory
be written, so what is seen there is known from the image alone. Board 4 shows the last 8 KiB for
every bank count. The register of board 2 holds a byte, so the bank number is cut to eight bits:
the bank shown is the last one up to 256 banks, and one of the first 255 banks above that.
-/
namespace Nes

/-- The number of the bank that board 2 keeps in view. -/
def Uxrom.fixedBank (banks : BankCounts) : Nat := (banks.program.toNat - 1) % 256

/-- The byte-wide register holds the number of the last bank up to 256 banks only. -/
theorem Uxrom.fixedBank_eq_last_iff {banks : BankCounts} (banked : 0 < banks.program.toNat) :
    Uxrom.fixedBank banks = banks.program.toNat - 1 ↔ banks.program.toNat ≤ 256 := by
  rw [fixedBank]
  omega

namespace Board

/-- The window at the end of the processor's addresses shows what it showed at power-on. -/
def FixesEnd : Board → Prop
  | uxrom board => board.high = board.banks.lastProgram
  | mmc3 board => board.programOffset 0xE000 = (Mmc3.programFromEnd board.banks 1).toNat
  | _ => True

end Board

/-- A write switches the low window of board 2 and leaves the high one. -/
theorem Uxrom.fixesEnd_write {board : Uxrom} (fixed : (Board.uxrom board).FixesEnd)
    (address : UInt16) (value : UInt8) :
    (Board.uxrom (board.write address value).2).FixesEnd := by
  rw [write]
  dsimp only
  split
  · exact fixed
  · exact fixed

/-- Working the windows out again puts the last one back to where it was. -/
theorem Mmc3.lastWindow_mapWindows (board : Mmc3) :
    board.mapWindows.programOffset 0xE000 = (programFromEnd board.banks 1).toNat := by
  rw [mapWindows]
  by_cases swapped : board.programSwapped = true
  · rw [if_pos swapped]
    rfl
  · rw [if_neg swapped]
    rfl

/-- A write to board 4 sets its windows from the registers, if at all, and the last one stays. -/
theorem Mmc3.fixesEnd_write {board : Mmc3} (fixed : (Board.mmc3 board).FixesEnd)
    (address : UInt16) (value : UInt8) :
    (Board.mmc3 (board.write address value).2).FixesEnd := by
  rw [write]
  split
  · exact fixed
  split
  · rw [writeRegister]
    split
    case h_2 => exact lastWindow_mapWindows _
    all_goals exact fixed
  · exact fixed

namespace Board

/-- A write leaves the fixed window of every board in place. -/
theorem fixesEnd_write {board : Board} (fixed : board.FixesEnd) (address : UInt16)
    (value : UInt8) : (board.write address value).2.FixesEnd := by
  cases board
  case uxrom board => exact Uxrom.fixesEnd_write fixed address value
  case mmc3 board => exact Mmc3.fixesEnd_write fixed address value
  all_goals exact trivial

/-- A reset puts the fixed window of every board in place. -/
theorem fixesEnd_reset (board : Board) : board.reset.FixesEnd := by
  cases board
  case uxrom board => exact rfl
  case mmc3 board => exact rfl
  all_goals exact trivial

/-- A board fresh from an image has its fixed window in place. -/
theorem fixesEnd_of_ofNumber? {number : UInt8} {banks : BankCounts} {board : Board}
    (found : ofNumber? number banks = some board) : board.FixesEnd := by
  have fresh := Cartridge.freshBoard_of_ofNumber? found
  rw [← fresh.reset]
  exact fixesEnd_reset board

/-- Boards 2 and 4 keep writes away from program memory. -/
theorem keepsProgram_write {board : Board} (number : board.number = 2 ∨ board.number = 4)
    (address : UInt16) (value : UInt8) (offset : Nat) :
    (board.write address value).1 ≠ some (.program offset) := by
  intro reached
  cases board
  case uxrom board => cases reached
  case mmc3 board =>
    change (board.write address value).1 = _ at reached
    rw [Mmc3.write] at reached
    split at reached
    · cases reached
    split at reached
    · cases reached
    · cases reached
  all_goals rcases number with impossible | impossible <;> cases impossible

end Board

/-- The upper half of the program space of board 2 is its high bank. -/
theorem Uxrom.readTarget_of_upperHalf {board : Uxrom} (fixed : (Board.uxrom board).FixesEnd)
    {offset : UInt16} (inside : offset < 0x4000) :
    board.readTarget (0xC000 + offset)
      = some (.program (fixedBank board.banks * 0x4000 + offset.toNat)) := by
  have bound : offset.toNat < 0x4000 := UInt16.lt_iff_toNat_lt.1 inside
  have place : (0xC000 + offset).toNat = 0xC000 + offset.toNat := by
    rw [UInt16.toNat_add]
    change (0xC000 + offset.toNat) % 2 ^ 16 = _
    omega
  have shown : inProgramSpace (0xC000 + offset) = true := by
    apply decide_eq_true
    apply UInt16.le_iff_toNat_le.2
    rw [place]
    change 0x8000 ≤ _
    omega
  have upper : ¬0xC000 + offset < 0xC000 := by
    intro lower
    have below : (0xC000 + offset).toNat < 0xC000 := UInt16.lt_iff_toNat_lt.1 lower
    omega
  have bank : board.high.toNat = fixedBank board.banks := by
    have same : board.high = board.banks.lastProgram := fixed
    rw [same, BankCounts.lastProgram, fixedBank]
    exact UInt8.toNat_ofNat'
  have remainder : (0xC000 + offset).toNat % 0x4000 = offset.toNat := by
    omega
  simp only [readTarget, if_pos shown, if_neg upper, bank, remainder]

/-- The last window of board 4 is the last one that its program memory has. -/
theorem Mmc3.readTarget_of_lastWindow {board : Mmc3} (fixed : (Board.mmc3 board).FixesEnd)
    (banked : 0 < board.banks.program.toNat) {offset : UInt16} (inside : offset < 0x2000) :
    board.readTarget (0xE000 + offset)
      = some (.program (board.banks.program.toNat * 0x4000 - 0x2000 + offset.toNat)) := by
  have bound : offset.toNat < 0x2000 := UInt16.lt_iff_toNat_lt.1 inside
  have place : (0xE000 + offset).toNat = 0xE000 + offset.toNat := by
    rw [UInt16.toNat_add]
    change (0xE000 + offset.toNat) % 2 ^ 16 = _
    omega
  have shown : inProgramSpace (0xE000 + offset) = true := by
    apply decide_eq_true
    apply UInt16.le_iff_toNat_le.2
    rw [place]
    change 0x8000 ≤ _
    omega
  have notMemory := Bool.eq_false_iff.1 (inBoardMemory_of_program shown)
  have window : board.programOffset 0xE000 = board.banks.program.toNat * 0x4000 - 0x2000 := by
    have same : board.programOffset 0xE000 = (programFromEnd board.banks 1).toNat := fixed
    have counted := board.banks.program.toNat_lt
    rw [same, programFromEnd, UInt32.toNat_mul]
    change (board.banks.program.toNat * 2 - 1) % 2 ^ 32 * 0x2000 % 2 ^ 32 = _
    omega
  have index : (0xE000 + offset).toNat / 0x2000 % 4 = 3 := by
    omega
  have remainder : (0xE000 + offset).toNat % 0x2000 = offset.toNat := by
    omega
  have reached : board.programOffset (0xE000 + offset)
      = board.programOffset 0xE000 + offset.toNat := by
    simp only [programOffset, index, remainder]
    rfl
  simp only [readTarget, if_neg notMemory, if_pos shown, reached, window]

namespace Cartridge

/-- A processor read at an address is claimed and gives the byte at an offset of a memory. -/
def Shows (cartridge : Cartridge) (memory : ByteArray) (address : UInt16) (offset : Nat) : Prop :=
  ∃ inside : offset < memory.size,
    cartridge.read address = some (memory.get offset inside)

/-- A read that the board maps into program memory shows the byte there. -/
theorem shows_of_readTarget {cartridge : Cartridge} {address : UInt16} {offset : Nat}
    (target : cartridge.board.readTarget address = some (.program offset))
    (inside : offset < cartridge.program.size) :
    cartridge.Shows cartridge.program address offset := by
  have own : offset % cartridge.program.data.size = offset := Nat.mod_eq_of_lt inside
  have found : wrappedGet cartridge.program offset = cartridge.program.get offset inside := by
    rw [wrappedGet_eq, own, Array.getElem?_eq_getElem inside]
    rfl
  refine ⟨inside, ?_⟩
  rw [read, target, ← found]

/-- A cartridge with a fixed bank, and the program memory that it came with. -/
structure KeepsEnd (program : ByteArray) (cartridge : Cartridge) : Prop where
  /-- The board is one of those with a fixed bank. -/
  number : cartridge.board.number = 2 ∨ cartridge.board.number = 4
  /-- The fixed window is in place. -/
  fixed : cartridge.board.FixesEnd
  /-- Program memory is as it was. -/
  program_eq : cartridge.program = program

/-- No action moves the fixed window or changes the memory behind it. -/
theorem kept_keepsEnd (program : ByteArray) : Kept (KeepsEnd program) := by
  intro cartridge action keeps
  have number : (cartridge.after action).board.number = cartridge.board.number :=
    congrArg (fun make => make.board.number) (cartridge.make_after action)
  have stillNumber := keeps.number
  rw [← number] at stillNumber
  cases action
  case write address value =>
    have fixed := Board.fixesEnd_write keeps.fixed address value
    have unclaimed := Board.keepsProgram_write keeps.number address value
    refine ⟨stillNumber, ?_, ?_⟩
    · simp only [after, write]
      rcases written : cartridge.board.write address value with ⟨_ | _ | _, board⟩ <;>
        (rw [written] at fixed; exact fixed)
    · simp only [after, write]
      rcases written : cartridge.board.write address value with ⟨_ | offset | _, board⟩
      · exact keeps.program_eq
      · rw [written] at unclaimed
        exact absurd rfl (unclaimed offset)
      · exact keeps.program_eq
  case writeCharacter address value =>
    refine ⟨stillNumber, ?_, ?_⟩
    · simp only [after, writeCharacter]
      split <;> exact keeps.fixed
    · simp only [after, writeCharacter]
      split <;> exact keeps.program_eq
  case reset => exact ⟨stillNumber, Board.fixesEnd_reset cartridge.board, keeps.program_eq⟩
  case countLine =>
    refine ⟨stillNumber, ?_, keeps.program_eq⟩
    have fixed := keeps.fixed
    change cartridge.board.countLine.FixesEnd
    cases board : cartridge.board <;> rw [board] at fixed <;> exact fixed
  case acknowledge =>
    refine ⟨stillNumber, ?_, keeps.program_eq⟩
    have fixed := keeps.fixed
    change cartridge.board.acknowledge.FixesEnd
    cases board : cartridge.board <;> rw [board] at fixed <;> exact fixed
  all_goals exact keeps

/-- After any use of the cartridge of an image with a bank of program memory, the fixed window shows
program memory as the image gave it. On board 4 it shows the last 8 KiB. On board 2 it shows the
bank whose number is that of the last bank cut to eight bits, which is the last bank just where
there are at most 256. -/
theorem shows_fixedBank {image : ByteArray} {cartridge : Cartridge}
    (read : ofImage image = .ok cartridge) (banked : 0 < cartridge.banks.program.toNat)
    (actions : List Action) :
    (cartridge.boardNumber = 2 →
      (∀ offset : UInt16, offset < 0x4000 →
        (cartridge.run actions).Shows cartridge.program (0xC000 + offset)
          (Uxrom.fixedBank cartridge.banks * 0x4000 + offset.toNat)) ∧
      (Uxrom.fixedBank cartridge.banks = cartridge.banks.program.toNat - 1 ↔
        cartridge.banks.program.toNat ≤ 256)) ∧
    (cartridge.boardNumber = 4 →
      ∀ offset : UInt16, offset < 0x2000 →
        (cartridge.run actions).Shows cartridge.program (0xE000 + offset)
          (cartridge.banks.program.toNat * 0x4000 - 0x2000 + offset.toNat)) := by
  have filled := (Accepted.image read).filled.program_size
  have wellMade := (Accepted.image read).wellMade
  have made := board_of_ofImage read
  have own := Board.number_of_ofNumber? made
  have same := cartridge.make_run actions
  have number : (cartridge.run actions).board.number = cartridge.boardNumber :=
    (congrArg (fun make => make.board.number) same).trans own
  have banks : (cartridge.run actions).board.banks = cartridge.banks :=
    (congrArg (fun make => make.board.banks) same).trans wellMade.boardBanks
  have keeps (either : cartridge.boardNumber = 2 ∨ cartridge.boardNumber = 4) :
      KeepsEnd cartridge.program (cartridge.run actions) := by
    rw [← own] at either
    exact (kept_keepsEnd cartridge.program).run
      ⟨either, Board.fixesEnd_of_ofNumber? made, rfl⟩ actions
  simp only [programBankSize] at filled
  constructor
  · intro two
    refine ⟨?_, Uxrom.fixedBank_eq_last_iff banked⟩
    intro offset inside
    have bound : offset.toNat < 0x4000 := UInt16.lt_iff_toNat_lt.1 inside
    obtain ⟨-, fixed, kept⟩ := keeps (.inl two)
    rw [two] at number
    rcases used : (cartridge.run actions).board with _ | _ | board | _ | _ | _ <;>
      rw [used] at number banks fixed <;> cases number
    have target := Uxrom.readTarget_of_upperHalf fixed inside
    rw [show board.banks = cartridge.banks from banks] at target
    rw [← kept]
    apply shows_of_readTarget
    · rw [used]
      exact target
    · rw [kept, filled, Uxrom.fixedBank]
      omega
  · intro four offset inside
    have bound : offset.toNat < 0x2000 := UInt16.lt_iff_toNat_lt.1 inside
    obtain ⟨-, fixed, kept⟩ := keeps (.inr four)
    rw [four] at number
    rcases used : (cartridge.run actions).board with _ | _ | _ | _ | board | _ <;>
      rw [used] at number banks fixed <;> cases number
    have counts : board.banks = cartridge.banks := banks
    rw [← counts] at banked
    have target := Mmc3.readTarget_of_lastWindow fixed banked inside
    rw [counts] at target banked
    rw [← kept]
    apply shows_of_readTarget
    · rw [used]
      exact target
    · rw [kept, filled]
      omega

/-- The header of an image for board 2 with 257 banks of program memory. -/
def manyBanksHeader : Memory 16 :=
  .ofList [0x4E, 0x45, 0x53, 0x1A, 0x01, 0, 0x20, 0x08, 0x01, 0, 0, 0, 0, 0, 0, 0] rfl

/-- An image for board 2 with 257 banks of zeros. -/
def manyBanksImage : ByteArray := imageOf manyBanksHeader (List.replicate (257 * 0x4000) 0)

/-- The cartridge of that image. -/
def manyBanks : Cartridge :=
  assemble (ImageHeader.ofMemory manyBanksHeader) manyBanksImage (.uxrom (.powerOn ⟨257, 0⟩))

/-- The image with 257 program banks is accepted. -/
theorem ofImage_manyBanksImage : ofImage manyBanksImage = .ok manyBanks := by
  have header : headerMemory manyBanksImage = manyBanksHeader := headerMemory_imageOf _ _
  have size : manyBanksImage.size = 16 + 257 * 0x4000 := by
    rw [manyBanksImage, size_imageOf, List.length_replicate]
  have headed : imageHeaderSize ≤ manyBanksImage.size := by
    rw [size]
    decide
  have marked : (headerMemory manyBanksImage).toList.take 4 = imageMark := by
    rw [header]
    decide
  have whole : (ImageHeader.ofMemory (headerMemory manyBanksImage)).imageSize
      ≤ manyBanksImage.size := by
    rw [header, size]
    decide
  have found : Board.ofNumber? (ImageHeader.ofMemory (headerMemory manyBanksImage)).boardNumber
      (ImageHeader.ofMemory (headerMemory manyBanksImage)).banks
        = some (.uxrom (.powerOn ⟨257, 0⟩)) := by
    rw [header]
    rfl
  rw [ofImage_eq_assemble headed marked whole found, header]
  rfl

/-- With 257 banks the upper half of board 2 shows the first bank, also after a bank switch. -/
theorem shows_fixedBank_of_manyBanks :
    manyBanks.boardNumber = 2 ∧ manyBanks.banks.program.toNat = 257 ∧
      (manyBanks.run [.write 0x8000 0x03, .reset]).Shows manyBanks.program 0xC000 0 := by
  have shown := (shows_fixedBank ofImage_manyBanksImage (by decide)
    [.write 0x8000 0x03, .reset]).1 rfl
  exact ⟨rfl, rfl, shown.1 0 (by decide)⟩

end Cartridge

end Nes
