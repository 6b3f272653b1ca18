/-!
# Bytes and words

The machine moves bytes over a 16-bit address bus. This module names the views of a byte and of
a word that the rest of the library speaks of: single bits, the two bytes of a word, and the
page (the high byte) that an address lies on.
-/
namespace Nes

/-- Bit `index` of a byte; bit 0 is the least significant. -/
@[inline] def bit (byte : UInt8) (index : Nat) : Bool := byte.toNat.testBit index

/-- Bit `index` of a word; bit 0 is the least significant. -/
@[inline] def wordBit (word : UInt16) (index : Nat) : Bool := word.toNat.testBit index

/-- The word whose low and high bytes are given. -/
@[inline] def wordOf (low high : UInt8) : UInt16 := (high.toUInt16 <<< 8) ||| low.toUInt16

/-- The low byte of a word. -/
@[inline] def lowByte (word : UInt16) : UInt8 := word.toUInt8

/-- The high byte of a word, which is the page of an address. -/
@[inline] def highByte (word : UInt16) : UInt8 := (word >>> 8).toUInt8

/-- The 32-bit word whose low and high halves are given. -/
@[inline] def doubleWordOf (low high : UInt16) : UInt32 :=
  (high.toUInt32 <<< 16) ||| low.toUInt32

/-- The low half of a 32-bit word. -/
@[inline] def lowWord (word : UInt32) : UInt16 := word.toUInt16

/-- The high half of a 32-bit word. -/
@[inline] def highWord (word : UInt32) : UInt16 := (word >>> 16).toUInt16

/-- Whether two addresses lie on one 256-byte page. -/
@[inline] def samePage (left right : UInt16) : Bool := highByte left == highByte right

/-- The byte with its bits in the opposite order: neighbours, then pairs, then halves change
places. -/
def reverseBits (byte : UInt8) : UInt8 :=
  let odd : UInt8 := 0x55
  let low : UInt8 := 0x33
  let byte := (byte >>> 1 &&& odd) ||| (byte &&& odd) <<< 1
  let byte := (byte >>> 2 &&& low) ||| (byte &&& low) <<< 2
  byte >>> 4 ||| byte <<< 4

/-- One bit spread over the low byte of a word. -/
@[inline] def spread (on : Bool) : UInt16 := if on then 0x00FF else 0x0000

/-- The high byte of a word counts its 256s. -/
theorem toNat_wordOf (low high : UInt8) :
    (wordOf low high).toNat = 256 * high.toNat + low.toNat := by
  have lowBound := low.toNat_lt
  have highBound := high.toNat_lt
  have shifted : high.toNat <<< 8 % 65536 = 2 ^ 8 * high.toNat := by
    rw [Nat.shiftLeft_eq]
    omega
  simp only [wordOf, UInt16.toNat_or, UInt16.toNat_shiftLeft, UInt8.toNat_toUInt16,
    UInt16.reduceToNat, Nat.reduceMod, Nat.reducePow]
  rw [shifted, ← Nat.two_pow_add_eq_or_of_lt lowBound]

/-- The low byte is the remainder by 256. -/
theorem toNat_lowByte (word : UInt16) : (lowByte word).toNat = word.toNat % 256 := by
  simp [lowByte]

/-- The high byte is the quotient by 256. -/
theorem toNat_highByte (word : UInt16) : (highByte word).toNat = word.toNat / 256 := by
  have bound := word.toNat_lt
  simp only [highByte, UInt16.toNat_toUInt8, UInt16.toNat_shiftRight, UInt16.reduceToNat,
    Nat.reduceMod, Nat.shiftRight_eq_div_pow, Nat.reducePow]
  omega

/-- A word is put together from its own two bytes. -/
theorem wordOf_lowByte_highByte (word : UInt16) :
    wordOf (lowByte word) (highByte word) = word := by
  apply UInt16.toNat_inj.1
  rw [toNat_wordOf, toNat_lowByte, toNat_highByte]
  omega

/-- The low byte put into a word is read back from it. -/
theorem lowByte_wordOf (low high : UInt8) : lowByte (wordOf low high) = low := by
  apply UInt8.toNat_inj.1
  have bound := low.toNat_lt
  rw [toNat_lowByte, toNat_wordOf]
  omega

/-- The high byte put into a word is read back from it. -/
theorem highByte_wordOf (low high : UInt8) : highByte (wordOf low high) = high := by
  apply UInt8.toNat_inj.1
  have bound := low.toNat_lt
  rw [toNat_highByte, toNat_wordOf]
  omega

/-- The high half of a 32-bit word counts its 65536s. -/
theorem toNat_doubleWordOf (low high : UInt16) :
    (doubleWordOf low high).toNat = 65536 * high.toNat + low.toNat := by
  have lowBound := low.toNat_lt
  have highBound := high.toNat_lt
  have shifted : high.toNat <<< 16 % 4294967296 = 2 ^ 16 * high.toNat := by
    rw [Nat.shiftLeft_eq]
    omega
  simp only [doubleWordOf, UInt32.toNat_or, UInt32.toNat_shiftLeft, UInt16.toNat_toUInt32,
    UInt32.reduceToNat, Nat.reduceMod, Nat.reducePow]
  rw [shifted, ← Nat.two_pow_add_eq_or_of_lt lowBound]

/-- A 32-bit word is put together from its own two halves. -/
theorem doubleWordOf_lowWord_highWord (word : UInt32) :
    doubleWordOf (lowWord word) (highWord word) = word := by
  apply UInt32.toNat_inj.1
  have bound := word.toNat_lt
  rw [toNat_doubleWordOf]
  simp only [lowWord, highWord, UInt32.toNat_toUInt16, UInt32.toNat_shiftRight,
    UInt32.reduceToNat, Nat.reduceMod, Nat.shiftRight_eq_div_pow, Nat.reducePow]
  omega

end Nes
