import Nes.Proofs.Ppu.Bounds
import Nes.Proofs.Ppu.FrameTiming

/-!
# The protocol of the scroll registers

Between two dots the processor sets the scroll words through four registers that write overlapping
parts of them. Two of these registers are written in halves, with one mark for both which half comes
next, and a read of the status takes the mark back. What carries the proofs is a table of the bits
that a write owns (`Access.puts`): every access puts these bits and leaves all other bits alone
(`scrollBit_access`), so that a bit is what the latest write that owned it put there.
-/
namespace Nes.Ppu

/-- A word has no bits from the sixteenth on. -/
theorem wordBit_of_le (word : UInt16) {index : Nat} (above : 16 ≤ index) :
    wordBit word index = false :=
  Nat.testBit_lt_two_pow
    (Nat.lt_of_lt_of_le word.toNat_lt (Nat.pow_le_pow_right (by decide) above))

namespace Scroll

/-- Bits of a value put in the place of neighbouring bits of a word. -/
theorem wordBit_replace (word value : UInt16) {mask low shift : UInt16} (start width : Nat)
    (place : shift.toNat % 16 = start) (span : low.toNat = 2 ^ width - 1)
    (fits : start + width ≤ 16)
    (others : ∀ index < 16,
      wordBit mask index = !decide (start ≤ index ∧ index < start + width)) (index : Nat) :
    wordBit (word &&& mask ||| (value &&& low) <<< shift) index
      = if start ≤ index ∧ index < start + width then wordBit value (index - start)
        else wordBit word index := by
  by_cases small : index < 16
  · have kept := others index small
    simp only [wordBit] at kept ⊢
    rw [UInt16.toNat_or, UInt16.toNat_and, toNat_and_shiftLeft value low shift start width place
      span fits, Nat.testBit_or, Nat.testBit_and, kept, Nat.testBit_mul_two_pow,
      Nat.testBit_mod_two_pow]
    by_cases inside : start ≤ index ∧ index < start + width
    · have offset : index - start < width := by omega
      simp [inside, offset]
    · have outside : ¬(start ≤ index ∧ index - start < width) := by omega
      rw [if_neg inside]
      by_cases after : start ≤ index
      · have far : ¬index - start < width := fun near => outside ⟨after, near⟩
        simp [inside, far]
      · simp [after]
  · have above : 16 ≤ index := Nat.le_of_not_lt small
    have outside : ¬(start ≤ index ∧ index < start + width) := by omega
    rw [if_neg outside, wordBit_of_le _ above, wordBit_of_le _ above]

variable (scroll : Scroll) (value : UInt16) (index : Nat)

/-- The tile column has bits 0 to 4 of a scroll word. -/
theorem wordBit_setCoarseX :
    wordBit (scroll.setCoarseX value).raw index
      = if index < 5 then wordBit value index else wordBit scroll.raw index := by
  have unmoved : (value &&& 0x001F) <<< 0 = value &&& 0x001F := UInt16.shiftLeft_zero
  have replaced : wordBit (scroll.raw &&& 0xFFE0 ||| (value &&& 0x001F) <<< (0 : UInt16)) index
      = _ :=
    wordBit_replace _ _ 0 5 rfl rfl (by decide) (by decide) index
  rw [setCoarseX, ← unmoved, replaced]
  simp

/-- The tile row has bits 5 to 9. -/
theorem wordBit_setCoarseY :
    wordBit (scroll.setCoarseY value).raw index
      = if 5 ≤ index ∧ index < 5 + 5 then wordBit value (index - 5)
        else wordBit scroll.raw index :=
  wordBit_replace _ _ 5 5 rfl rfl (by decide) (by decide) index

/-- The nametable across has bit 10. -/
theorem wordBit_setNametableX :
    wordBit (scroll.setNametableX value).raw index
      = if 10 ≤ index ∧ index < 10 + 1 then wordBit value (index - 10)
        else wordBit scroll.raw index :=
  wordBit_replace _ _ 10 1 rfl rfl (by decide) (by decide) index

/-- The nametable down has bit 11. -/
theorem wordBit_setNametableY :
    wordBit (scroll.setNametableY value).raw index
      = if 11 ≤ index ∧ index < 11 + 1 then wordBit value (index - 11)
        else wordBit scroll.raw index :=
  wordBit_replace _ _ 11 1 rfl rfl (by decide) (by decide) index

/-- The line within a tile has bits 12 to 14. -/
theorem wordBit_setFineY :
    wordBit (scroll.setFineY value).raw index
      = if 12 ≤ index ∧ index < 12 + 3 then wordBit value (index - 12)
        else wordBit scroll.raw index :=
  wordBit_replace _ _ 12 3 rfl rfl (by decide) (by decide) index

end Scroll

/-- A bit of what the scroll registers set. -/
inductive ScrollBit where
  /-- A bit of the scroll word being written. -/
  | next (index : Nat)
  /-- A bit of the pixel at the left edge. -/
  | fine (index : Nat)

/-- The value of a bit. -/
def scrollBit (ppu : Ppu) : ScrollBit → Bool
  | .next index => wordBit ppu.nextScroll.raw index
  | .fine index => bit ppu.fineX index

/-- Some neighbouring bits of a byte, put in the places from `start` on. -/
def span (value : UInt8) (low start width index : Nat) : Option Bool :=
  if start ≤ index ∧ index < start + width then some (bit value (low + (index - start))) else none

/-- A span over a bit replaces it within its range only. -/
theorem span_getD (value : UInt8) (low start width index : Nat) (old : Bool) :
    (span value low start width index).getD old
      = if start ≤ index ∧ index < start + width then bit value (low + (index - start))
        else old := by
  rw [span]
  split <;> rfl

namespace Access

/-- The number of the register that an access reaches. -/
def register : Access → Nat
  | read address => address.toNat % 8
  | write address _ => address.toNat % 8

/-- The access reads the status. -/
def readsStatus : Access → Bool
  | read address => address.toNat % 8 = 2
  | write _ _ => false

/-- The access writes one half of the scroll or of the address. -/
def writesHalf : Access → Bool
  | read _ => false
  | write address _ => address.toNat % 8 = 5 || address.toNat % 8 = 6

/-- The access writes a half of the address. -/
def writesAddress : Access → Bool
  | read _ => false
  | write address _ => address.toNat % 8 = 6

/-- What an access puts in a bit, if it owns the bit. The two halves of the scroll and those of the
address own different bits. -/
def puts (second : Bool) : Access → ScrollBit → Option Bool
  | read _, _ => none
  | write address value, place =>
    match address.toNat % 8, second, place with
    | 0, _, .next index => span value 0 10 2 index
    | 5, false, .next index => span value 3 0 5 index
    | 5, false, .fine index => span value 0 0 3 index
    | 5, true, .next index => (span value 3 5 5 index).or (span value 0 12 3 index)
    | 6, false, .next index => (span value 0 8 6 index).or (span 0 0 14 1 index)
    | 6, true, .next index => span value 0 0 8 index
    | _, _, _ => none

end Access

section Bytes

variable (value : UInt8) (index : Nat)

/-- A byte as a word has the bits of the byte. -/
theorem wordBit_toUInt16 : wordBit value.toUInt16 index = bit value index := by
  rw [wordBit, bit, UInt8.toNat_toUInt16]

/-- A shift to the right takes bits down by its number of places. -/
theorem bit_shiftRight {shift : UInt8} (small : shift.toNat < 8) :
    bit (value >>> shift) index = bit value (shift.toNat + index) := by
  rw [bit, bit, UInt8.toNat_shiftRight, Nat.mod_eq_of_lt small, Nat.testBit_shiftRight]

/-- A mask of ones keeps the low bits and clears the others. -/
theorem bit_and_low {mask : UInt8} {width : Nat} (ones : mask.toNat = 2 ^ width - 1) :
    bit (value &&& mask) index = (decide (index < width) && bit value index) := by
  rw [bit, bit, UInt8.toNat_and, ones, Nat.and_two_pow_sub_one_eq_mod, Nat.testBit_mod_two_pow]

/-- A word of two bytes has the bits of the low one below those of the high one. -/
theorem wordBit_wordOf (low high : UInt8) :
    wordBit (wordOf low high) index
      = if index < 8 then bit low index else bit high (index - 8) := by
  have whole : (wordOf low high).toNat = 2 ^ 8 * high.toNat + low.toNat := toNat_wordOf low high
  rw [wordBit, whole, Nat.testBit_two_pow_mul_add _ low.toNat_lt]
  rfl

/-- The high byte of a word has its upper eight bits. -/
theorem bit_highByte (word : UInt16) : bit (highByte word) index = wordBit word (index + 8) := by
  rw [bit, toNat_highByte]
  exact Nat.testBit_div_two_pow (n := 8) word.toNat index

/-- The low byte of a word has its lower eight bits. -/
theorem bit_lowByte (word : UInt16) :
    bit (lowByte word) index = (decide (index < 8) && wordBit word index) := by
  rw [bit, toNat_lowByte]
  exact Nat.testBit_mod_two_pow word.toNat 8 index

end Bytes

section Writes

variable (ppu : Ppu) (value : UInt8) (index : Nat)

/-- A write of the control register puts its two low bits in the nametable bits. -/
theorem wordBit_writeControl :
    wordBit (ppu.writeControl value).nextScroll.raw index
      = (span value 0 10 2 index).getD (wordBit ppu.nextScroll.raw index) := by
  change wordBit ((ppu.nextScroll.setNametableX value.toUInt16).setNametableY
    (value >>> 1).toUInt16).raw index = _
  rw [Scroll.wordBit_setNametableY, Scroll.wordBit_setNametableX, span_getD, wordBit_toUInt16,
    wordBit_toUInt16, bit_shiftRight value _ (by decide : (1 : UInt8).toNat < 8)]
  by_cases down : index = 11
  · subst down
    rfl
  by_cases across : index = 10
  · subst across
    rfl
  rw [if_neg (by omega), if_neg (by omega), if_neg (by omega)]

variable {ppu}

/-- The first half of the scroll puts its five high bits in the tile column. -/
theorem wordBit_writeScroll_first (first : ppu.secondWrite = false) :
    wordBit (ppu.writeScroll value).nextScroll.raw index
      = (span value 3 0 5 index).getD (wordBit ppu.nextScroll.raw index) := by
  rw [writeScroll]
  simp only [first, Bool.false_eq_true, if_false]
  rw [Scroll.wordBit_setCoarseX, span_getD, wordBit_toUInt16,
    bit_shiftRight value _ (by decide : (3 : UInt8).toNat < 8)]
  simp

/-- The first half of the scroll puts its three low bits in the pixel at the left edge. -/
theorem bit_writeScroll_first (first : ppu.secondWrite = false) (tiny : ppu.fineX < 8) :
    bit (ppu.writeScroll value).fineX index
      = (span value 0 0 3 index).getD (bit ppu.fineX index) := by
  rw [writeScroll]
  simp only [first, Bool.false_eq_true, if_false]
  rw [bit_and_low value index (show (0x07 : UInt8).toNat = 2 ^ 3 - 1 from rfl), span_getD]
  by_cases inside : index < 3
  · simp [inside]
  · have above : ppu.fineX.toNat < 2 ^ index :=
      Nat.lt_of_lt_of_le (UInt8.lt_iff_toNat_lt.1 tiny)
        (Nat.pow_le_pow_right (n := 2) (by decide) (Nat.le_of_not_lt inside))
    have none : bit ppu.fineX index = false := Nat.testBit_lt_two_pow above
    simp [inside, none]

/-- The second half of the scroll puts its bits in the tile row and in the line within a tile. -/
theorem wordBit_writeScroll_second (second : ppu.secondWrite = true) :
    wordBit (ppu.writeScroll value).nextScroll.raw index
      = ((span value 3 5 5 index).or (span value 0 12 3 index)).getD
          (wordBit ppu.nextScroll.raw index) := by
  have fine (low : Nat) (inside : low < 3) : bit (value &&& 0x07) low = bit value low := by
    rw [bit_and_low value low (show (0x07 : UInt8).toNat = 2 ^ 3 - 1 from rfl)]
    simp [inside]
  rw [writeScroll]
  simp only [second, if_true]
  rw [Scroll.wordBit_setCoarseY, Scroll.wordBit_setFineY, Option.getD_or, span_getD, span_getD,
    wordBit_toUInt16, wordBit_toUInt16,
    bit_shiftRight value _ (by decide : (3 : UInt8).toNat < 8)]
  split
  · rfl
  split
  · rw [fine _ (by omega), Nat.zero_add]
  · rfl

/-- The first half of the address puts six bits in the high byte and clears the bit above them. -/
theorem wordBit_writeAddress_first (first : ppu.secondWrite = false)
    (inRange : ppu.nextScroll.InRange) :
    wordBit (ppu.writeAddress value).nextScroll.raw index
      = ((span value 0 8 6 index).or (span 0 0 14 1 index)).getD
          (wordBit ppu.nextScroll.raw index) := by
  rw [writeAddress]
  simp only [first, Bool.false_eq_true, if_false]
  rw [wordBit_wordOf, bit_lowByte,
    bit_and_low value _ (show (0x3F : UInt8).toNat = 2 ^ 6 - 1 from rfl), Option.getD_or,
    span_getD, span_getD]
  by_cases low : index < 8
  · have below : ¬(8 ≤ index ∧ index < 8 + 6) := by omega
    have under : ¬(14 ≤ index ∧ index < 14 + 1) := by omega
    simp [low, below, under]
  by_cases inside : index < 14
  · have within : 8 ≤ index ∧ index < 8 + 6 := by omega
    have offset : index - 8 < 6 := by omega
    simp [low, within, offset]
  · have beyond : ¬(8 ≤ index ∧ index < 8 + 6) := by omega
    have offset : ¬index - 8 < 6 := by omega
    simp only [low, beyond, offset, if_false, decide_false, Bool.false_and]
    split
    · exact (Nat.zero_testBit _).symm
    · have none : wordBit ppu.nextScroll.raw index = false := by
        refine Nat.testBit_lt_two_pow (Nat.lt_of_lt_of_le inRange ?_)
        exact Nat.pow_le_pow_right (n := 2) (i := 15) (by decide) (by omega)
      exact none.symm

/-- The second half of the address puts its bits in the low byte. -/
theorem wordBit_writeAddress_second (second : ppu.secondWrite = true) :
    wordBit (ppu.writeAddress value).nextScroll.raw index
      = (span value 0 0 8 index).getD (wordBit ppu.nextScroll.raw index) := by
  rw [writeAddress]
  simp only [second, if_true]
  rw [wordBit_wordOf, bit_highByte, span_getD]
  by_cases low : index < 8
  · have inside : 0 ≤ index ∧ index < 0 + 8 := by omega
    rw [if_pos low, if_pos inside, Nat.sub_zero, Nat.zero_add]
  · have outside : ¬(0 ≤ index ∧ index < 0 + 8) := by omega
    rw [if_neg low, if_neg outside, Nat.sub_add_cancel (Nat.le_of_not_lt low)]

end Writes

section Step

variable {κ : Type} [CartridgeSide κ]

/-- A write of video memory changes memory and goes on to the next address. -/
theorem writeData_memories (ppu : Ppu) (slot : κ) (value : UInt8) :
    ∃ nametables patterns palette,
      (ppu.writeData slot value).1
        = { ppu.advanceAddress with nametables, patterns, palette } := by
  simp only [writeData, writeVideo]
  split
  · exact ⟨_, _, _, rfl⟩
  split
  · exact ⟨_, _, _, rfl⟩
  split <;> exact ⟨_, _, _, rfl⟩

/-- A read changes no bit that the scroll registers set. -/
theorem scrollBit_readRegister (ppu : Ppu) (slot : κ) (address : UInt16) (place : ScrollBit) :
    (ppu.readRegister slot address).2.scrollBit place = ppu.scrollBit place := by
  rw [readRegister]
  split <;> rfl

/-- A write through the data register owns no bit of the scroll. -/
theorem scrollBit_writeData (ppu : Ppu) (slot : κ) (value : UInt8) (place : ScrollBit) :
    (ppu.writeData slot value).1.scrollBit place = ppu.scrollBit place := by
  obtain ⟨nametables, patterns, palette, same⟩ := ppu.writeData_memories slot value
  rw [same]
  rfl

/-- An access puts the bits that it owns and leaves all others alone. -/
theorem scrollBit_access {state : Ppu × κ} (bounded : Bounded state.1) (request : Access)
    (place : ScrollBit) :
    (access state request).1.scrollBit place
      = (request.puts state.1.secondWrite place).getD (state.1.scrollBit place) := by
  obtain ⟨ppu, slot⟩ := state
  cases request with
  | read address => exact ppu.scrollBit_readRegister slot address place
  | write address value =>
    simp only [access, writeRegister, Access.puts]
    generalize address.toNat % 8 = register
    split
    case h_1 =>
      cases place with
      | next index => exact ppu.wordBit_writeControl value index
      | fine index => rfl
    case h_6 =>
      cases second : ppu.secondWrite <;> cases place
      case false.next index => exact wordBit_writeScroll_first value index second
      case false.fine index => exact bit_writeScroll_first value index second bounded.fineX
      case true.next index => exact wordBit_writeScroll_second value index second
      case true.fine index => simp only [writeScroll, second, if_true]; rfl
    case h_7 =>
      cases second : ppu.secondWrite <;> cases place
      case false.next index =>
        exact wordBit_writeAddress_first value index second bounded.nextScroll
      case true.next index => exact wordBit_writeAddress_second value index second
      all_goals
        simp only [writeAddress, second, Bool.false_eq_true, if_true, if_false]
        rfl
    case h_8 no0 no1 no2 no3 no4 no5 no6 =>
      rw [scrollBit_writeData]
      split
      all_goals first | rfl | contradiction
    all_goals rfl

/-- Each half of the scroll is followed by the other half. -/
theorem secondWrite_writeScroll (ppu : Ppu) (value : UInt8) :
    (ppu.writeScroll value).secondWrite = !ppu.secondWrite := by
  rw [writeScroll]
  cases ppu.secondWrite <;> rfl

/-- Each half of the address is followed by the other half. -/
theorem secondWrite_writeAddress (ppu : Ppu) (value : UInt8) :
    (ppu.writeAddress value).secondWrite = !ppu.secondWrite := by
  rw [writeAddress]
  cases ppu.secondWrite <;> rfl

/-- A write through the data register does not count as a half. -/
theorem secondWrite_writeData (ppu : Ppu) (slot : κ) (value : UInt8) :
    (ppu.writeData slot value).1.secondWrite = ppu.secondWrite := by
  obtain ⟨nametables, patterns, palette, same⟩ := ppu.writeData_memories slot value
  rw [same]
  rfl

/-- The mark goes over to the other half with every half that is written, and a read of the status
takes it back. -/
theorem secondWrite_access (state : Ppu × κ) (request : Access) :
    (access state request).1.secondWrite
      = if request.readsStatus then false else state.1.secondWrite ^^ request.writesHalf := by
  obtain ⟨ppu, slot⟩ := state
  cases request with
  | read address =>
    change (ppu.readRegister slot address).2.secondWrite
      = if _ then false else ppu.secondWrite ^^ false
    rw [readRegister, Bool.xor_false]
    split
    case h_1 here => simp [Access.readsStatus, here, readStatus]
    case h_2 here => simp [Access.readsStatus, here]
    case h_3 here => simp [Access.readsStatus, here, readData, advanceAddress]
    case h_4 no2 no4 no7 => exact (if_neg fun reads => no2 (of_decide_eq_true reads)).symm
  | write address value =>
    change (ppu.writeRegister slot address value).1.secondWrite = (ppu.secondWrite ^^ _)
    rw [writeRegister]
    split
    case h_6 here => simp [secondWrite_writeScroll, Access.writesHalf, here]
    case h_7 here => simp [secondWrite_writeAddress, Access.writesHalf, here]
    case h_8 no0 no1 no2 no3 no4 no5 no6 =>
      have here : address.toNat % 8 = 7 := by grind
      simp [secondWrite_writeData, Access.writesHalf, here]
    all_goals simp [Access.writesHalf, *, writeControl, writeOamData, storeOam]

/-- The scroll register does not reach the scroll word in use. -/
theorem scroll_writeScroll (ppu : Ppu) (value : UInt8) :
    (ppu.writeScroll value).scroll = ppu.scroll := by
  rw [writeScroll]
  dsimp only
  split <;> rfl

/-- The second half of the address puts it in use. -/
theorem scroll_writeAddress (ppu : Ppu) (value : UInt8) :
    (ppu.writeAddress value).scroll
      = if ppu.secondWrite then (ppu.writeAddress value).nextScroll else ppu.scroll := by
  rw [writeAddress]
  cases ppu.secondWrite <;> rfl

/-- An access of video memory goes on by one place or by one line of tiles. -/
theorem toNat_increment (control : Control) :
    control.increment.toNat = if control.stepsDown then 32 else 1 := by
  rw [Control.increment]
  split <;> rfl

/-- The address goes on by its step and comes round at fifteen bits. -/
theorem toNat_advance (scroll : Scroll) (step : UInt16) :
    (scroll.advance step).raw.toNat = (scroll.raw.toNat + step.toNat) % 2 ^ 15 := by
  rw [Scroll.advance, UInt16.toNat_and, UInt16.toNat_add]
  change (scroll.raw.toNat + step.toNat) % 2 ^ 16 &&& (2 ^ 15 - 1) = _
  rw [Nat.and_two_pow_sub_one_eq_mod]
  exact Nat.mod_mod_of_dvd _ (by decide)

/-- A write through the data register takes the scroll word in use on by one step. -/
theorem scroll_writeData (ppu : Ppu) (slot : κ) (value : UInt8) :
    (ppu.writeData slot value).1.scroll = ppu.scroll.advance ppu.control.increment := by
  obtain ⟨nametables, patterns, palette, same⟩ := ppu.writeData_memories slot value
  rw [same]
  rfl

/-- An access of video memory goes on to the next address. -/
theorem scroll_access_of_data (state : Ppu × κ) {request : Access} (data : request.register = 7) :
    (access state request).1.scroll = state.1.scroll.advance state.1.control.increment := by
  obtain ⟨ppu, slot⟩ := state
  cases request with
  | read address =>
    have here : address.toNat % 8 = 7 := data
    simp only [access, readRegister, here]
    rfl
  | write address value =>
    have here : address.toNat % 8 = 7 := data
    simp only [access, writeRegister, here]
    exact ppu.scroll_writeData slot value

/-- Of all other accesses only the second half of an address moves the word in use. -/
theorem scroll_access_of_other (state : Ppu × κ) {request : Access}
    (other : request.register ≠ 7) :
    (access state request).1.scroll
      = if request.writesAddress && state.1.secondWrite then (access state request).1.nextScroll
        else state.1.scroll := by
  obtain ⟨ppu, slot⟩ := state
  cases request with
  | read address =>
    have elsewhere : address.toNat % 8 ≠ 7 := other
    simp only [access, readRegister, Access.writesAddress, Bool.false_and, Bool.false_eq_true,
      if_false]
    split
    case h_3 here => exact absurd here elsewhere
    all_goals rfl
  | write address value =>
    have elsewhere : address.toNat % 8 ≠ 7 := other
    simp only [access, writeRegister, Access.writesAddress]
    split
    case h_6 here => simp [here, scroll_writeScroll]
    case h_7 here => simp [here, scroll_writeAddress]
    case h_8 no0 no1 no2 no3 no4 no5 no6 => exact absurd (by grind) elsewhere
    all_goals simp [*, writeControl, writeOamData, storeOam]

end Step

/-- How many halves have been written since the latest read of the status, in a history with the
latest access first. -/
def halvesWritten (history : List Access) : Nat :=
  (history.takeWhile (!·.readsStatus)).countP (·.writesHalf)

/-- The next half to be written is a second one. -/
def secondNext (history : List Access) : Bool := halvesWritten history % 2 = 1

/-- What the latest write that owned a bit put there, if there is one. -/
def lastPut (place : ScrollBit) : List Access → Option Bool
  | [] => none
  | latest :: earlier => (latest.puts (secondNext earlier) place).or (lastPut place earlier)

/-- A read of the status makes the next half a first one, and a half changes which comes next. -/
theorem secondNext_cons (latest : Access) (earlier : List Access) :
    secondNext (latest :: earlier)
      = if latest.readsStatus then false else secondNext earlier ^^ latest.writesHalf := by
  rw [secondNext, secondNext, halvesWritten, halvesWritten, List.takeWhile_cons]
  cases latest.readsStatus
  case true => rfl
  case false =>
    simp only [Bool.not_false, if_true, Bool.false_eq_true, if_false, List.countP_cons]
    generalize (earlier.takeWhile (!·.readsStatus)).countP (·.writesHalf) = count
    cases latest.writesHalf
    case false => simp
    case true => rcases Nat.mod_two_eq_zero_or_one count with even | odd <;> simp [Nat.add_mod, *]

section Histories

variable {κ : Type} [CartridgeSide κ] (ppu : Ppu) (slot : κ)

/-- The chip and the slot after a reset and a history of accesses, the latest one first. -/
def sinceReset (history : List Access) : Ppu × κ :=
  history.foldr (fun request state => access state request) (ppu.reset, slot)

/-- An access of the processor keeps the chip within its bounds. -/
theorem bounded_access {state : Ppu × κ} (bounded : Bounded state.1) (request : Access) :
    Bounded (access state request).1 := by
  cases request with
  | read address => exact bounded.readRegister state.2 address
  | write address value => exact bounded.writeRegister state.2 address value

/-- After a reset and any accesses the chip is within its bounds. -/
theorem bounded_sinceReset (history : List Access) : Bounded (sinceReset ppu slot history).1 := by
  induction history with
  | nil => exact bounded_reset ppu
  | cons latest earlier bounded => exact bounded_access bounded latest

/-- The mark tells whether an odd number of halves has been written. -/
theorem secondWrite_sinceReset (history : List Access) :
    (sinceReset ppu slot history).1.secondWrite = secondNext history := by
  induction history with
  | nil => rfl
  | cons latest earlier same =>
    change (access (sinceReset ppu slot earlier) latest).1.secondWrite = _
    rw [secondWrite_access, same, secondNext_cons]

/-- A bit is what the latest write that owned it put there; a reset clears all bits. -/
theorem scrollBit_sinceReset (history : List Access) (place : ScrollBit) :
    (sinceReset ppu slot history).1.scrollBit place = (lastPut place history).getD false := by
  induction history with
  | nil => cases place <;> exact Nat.zero_testBit _
  | cons latest earlier same =>
    change (access (sinceReset ppu slot earlier) latest).1.scrollBit place = _
    rw [scrollBit_access (bounded_sinceReset ppu slot earlier), same, secondWrite_sinceReset,
      lastPut, Option.getD_or]

/-- After a reset and any accesses, the mark of the second write tells the parity of the halves
written since the status was read, each bit is what the latest write that owned it put there, and
the scroll words have fifteen bits. The next access moves the word in use only as an access of video
memory, which goes on by one place or by one line of tiles, or as the second half of an address,
which puts the word being written in use. -/
theorem scroll_protocol (history : List Access) :
    let now := (sinceReset ppu slot history).1
    (now.secondWrite = true ↔ halvesWritten history % 2 = 1) ∧
      (∀ place, now.scrollBit place = (lastPut place history).getD false) ∧
      now.scroll.raw.toNat < 2 ^ 15 ∧ now.nextScroll.raw.toNat < 2 ^ 15 ∧
      ∀ request,
        let next := (access (sinceReset ppu slot history) request).1
        next.scroll.raw.toNat =
          if request.register = 7 then
            (now.scroll.raw.toNat + if now.control.stepsDown then 32 else 1) % 2 ^ 15
          else if request.writesAddress = true ∧ halvesWritten history % 2 = 1 then
            next.nextScroll.raw.toNat
          else now.scroll.raw.toNat := by
  have bounded := bounded_sinceReset ppu slot history
  have mark := secondWrite_sinceReset ppu slot history
  have odd : secondNext history = true ↔ halvesWritten history % 2 = 1 := decide_eq_true_iff
  refine ⟨by rw [mark, odd], scrollBit_sinceReset ppu slot history, bounded.scroll,
    bounded.nextScroll, fun request => ?_⟩
  dsimp only
  by_cases data : request.register = 7
  · rw [if_pos data, scroll_access_of_data _ data, toNat_advance, toNat_increment]
  · rw [if_neg data, scroll_access_of_other _ data, mark]
    by_cases second : request.writesAddress = true ∧ halvesWritten history % 2 = 1
    · rw [if_pos second, if_pos (Bool.and_eq_true_iff.2 ⟨second.1, odd.2 second.2⟩)]
    · rw [if_neg second, if_neg fun both => second ?_]
      obtain ⟨half, next⟩ := Bool.and_eq_true_iff.1 both
      exact ⟨half, odd.1 next⟩

end Histories

end Nes.Ppu
