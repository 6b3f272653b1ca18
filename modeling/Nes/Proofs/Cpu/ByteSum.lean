import Mathlib.Data.Nat.Digits.Defs
import Nes.Cpu.Effect

/-!
# Sums of numbers that are many bytes long

The adder of the processor adds two bytes and the carry (`Added.byte`). When the bytes of two
numbers are added one after the other, from the least significant one up, with the carry handed on,
the bytes of the sum come out, and the flags of the last addition are those of the whole one
(`Added.cons`). Subtraction adds the complement of each byte, which is to add the complement of the
number (`numberOf_complement`).
-/
namespace Nes.Cpu

/-- The number whose bytes are given, the least significant one first. -/
def numberOf (bytes : List UInt8) : Nat := Nat.ofDigits 256 (bytes.map (·.toNat))

/-- The first byte is the least significant one. -/
theorem numberOf_cons (byte : UInt8) (bytes : List UInt8) :
    numberOf (byte :: bytes) = byte.toNat + 256 * numberOf bytes :=
  Nat.ofDigits_cons

/-- The complements of the bytes make the complement of the number. -/
theorem numberOf_complement (bytes : List UInt8) :
    numberOf (bytes.map (~~~·)) + numberOf bytes + 1 = 256 ^ bytes.length := by
  induction bytes with
  | nil => rfl
  | cons byte bytes rest =>
    have bound := byte.toNat_lt
    have complement : (~~~byte).toNat = 255 - byte.toNat := UInt8.toNat_not byte
    rw [List.map_cons, numberOf_cons, numberOf_cons, complement, List.length_cons, Nat.pow_succ]
    omega

/-- The sign of a number is the first bit of its last byte. -/
theorem testBit_add_mul (byte : UInt8) (number : Nat) {length : Nat} (positive : 0 < length) :
    (byte.toNat + 256 * number).testBit (8 * (length + 1) - 1)
      = number.testBit (8 * length - 1) := by
  have place : 8 * (length + 1) - 1 - 8 = 8 * length - 1 := by omega
  rw [Nat.add_comm, Nat.testBit_two_pow_mul_add number byte.toNat_lt, if_neg (by omega), place]

/-- What an addition with carry of two numbers of `length` bytes leaves: the number `total`, and the
flags in `status`. -/
structure Added (length left right : Nat) (carryIn : Bool) (total : Nat) (status : Status) :
    Prop where
  /-- The sum without the carry out of it. -/
  sum : total = (left + right + carryIn.toNat) % 256 ^ length
  /-- The carry out of the sum. -/
  carry : status.carry = decide (256 ^ length ≤ left + right + carryIn.toNat)
  /-- Both addends have the sign that the sum has not. -/
  overflow : status.overflow
    = (left.testBit (8 * length - 1) == right.testBit (8 * length - 1)
      && !(total.testBit (8 * length - 1) == left.testBit (8 * length - 1)))
  /-- The sign of the sum. -/
  negative : status.negative = total.testBit (8 * length - 1)

namespace Added

/-- The adder adds two numbers of one byte. -/
theorem byte (registers : Registers) (value : UInt8) :
    Added 1 registers.a.toNat value.toNat registers.status.carry
      (registers.addWithCarry value).a.toNat (registers.addWithCarry value).status := by
  have left := registers.a.toNat_lt
  have right := value.toNat_lt
  have bound : registers.status.carry.toNat ≤ 1 := Bool.toNat_le _
  have carried : registers.status.carry.toUInt8.toNat = registers.status.carry.toNat := by
    cases registers.status.carry <;> rfl
  have sum : (registers.a.toUInt16 + value.toUInt16
      + registers.status.carry.toUInt8.toUInt16).toNat
        = registers.a.toNat + value.toNat + registers.status.carry.toNat := by
    simp only [UInt16.toNat_add, UInt8.toNat_toUInt16, carried]
    omega
  refine ⟨?sum, ?carry, ?overflow, rfl⟩
  case sum =>
    change (UInt16.toUInt8 _).toNat = _
    rw [UInt16.toNat_toUInt8, sum]
    rfl
  case carry =>
    change decide (_ > _) = _
    rw [decide_eq_decide, gt_iff_lt, UInt16.lt_iff_toNat_lt, sum]
    exact Iff.rfl
  case overflow =>
    change bit (~~~(registers.a ^^^ value) &&& (registers.a ^^^ (registers.addWithCarry value).a)) 7
      = (bit registers.a 7 == bit value 7
        && !(bit (registers.addWithCarry value).a 7 == bit registers.a 7))
    generalize (registers.addWithCarry value).a = result
    change (~~~(registers.a.toBitVec ^^^ value.toBitVec)
      &&& (registers.a.toBitVec ^^^ result.toBitVec)).getLsbD 7 = _
    simp only [BitVec.getLsbD_and, BitVec.getLsbD_not, BitVec.getLsbD_xor]
    change (_ && !(bit registers.a 7 ^^ bit value 7) && (bit registers.a 7 ^^ bit result 7)) = _
    cases bit registers.a 7 <;> cases bit value 7 <;> cases bit result 7 <;> rfl

/-- A byte is added below an addition of numbers, whose carry it hands on. -/
theorem cons {registers : Registers} {value : UInt8} {length left right total : Nat}
    {status : Status} (positive : 0 < length)
    (rest : Added length left right (registers.addWithCarry value).status.carry total status) :
    Added (length + 1) (registers.a.toNat + 256 * left) (value.toNat + 256 * right)
      registers.status.carry ((registers.addWithCarry value).a.toNat + 256 * total) status := by
  obtain ⟨low, carry, -, -⟩ := byte registers value
  obtain ⟨high, last, overflow, negative⟩ := rest
  have bound : registers.status.carry.toNat ≤ 1 := Bool.toNat_le _
  have handed : (registers.addWithCarry value).status.carry.toNat
      = (registers.a.toNat + value.toNat + registers.status.carry.toNat) / 256 := by
    have first := registers.a.toNat_lt
    have second := value.toNat_lt
    rw [carry]
    by_cases full : 256 ^ 1 ≤ registers.a.toNat + value.toNat + registers.status.carry.toNat
    · rw [decide_eq_true full, Bool.toNat_true]
      omega
    · rw [decide_eq_false full, Bool.toNat_false]
      omega
  have quotient : ((registers.a.toNat + 256 * left) + (value.toNat + 256 * right)
      + registers.status.carry.toNat) / 256
        = left + right + (registers.addWithCarry value).status.carry.toNat := by
    rw [handed]
    omega
  have remainder : ((registers.a.toNat + 256 * left) + (value.toNat + 256 * right)
      + registers.status.carry.toNat) % 256 = (registers.addWithCarry value).a.toNat := by
    rw [low]
    omega
  refine ⟨?sum, ?carry, ?overflow, ?negative⟩
  case sum =>
    rw [Nat.pow_succ', Nat.mod_mul, quotient, remainder, high]
  case carry =>
    rw [last, decide_eq_decide, ← quotient, Nat.le_div_iff_mul_le (by decide), Nat.pow_succ]
  case overflow =>
    rw [testBit_add_mul _ _ positive, testBit_add_mul _ _ positive, testBit_add_mul _ _ positive,
      overflow]
  case negative => rw [testBit_add_mul _ _ positive, negative]

end Added

/-- The sum of two numbers of `length` bytes and the flags that tell about it. -/
structure LongSum (length left right total : Nat) (status : Status) : Prop where
  /-- The sum, as far as the bytes hold it. -/
  sum : total = (left + right) % 256 ^ length
  /-- The sum does not fit. -/
  carry : status.carry = decide (left + right ≥ 256 ^ length)
  /-- The sum of the signed numbers does not fit. -/
  overflow : status.overflow
    = (BitVec.ofNat (8 * length) left).saddOverflow (.ofNat (8 * length) right)
  /-- The first bit of the sum. -/
  negative : status.negative = total.testBit (8 * length - 1)

/-- The difference of two numbers of `length` bytes and the flags that tell about it. -/
structure LongDifference (length left right total : Nat) (status : Status) : Prop where
  /-- The difference, as far as the bytes hold it. -/
  difference : (total : Int) = ((left : Int) - right) % 256 ^ length
  /-- Nothing was borrowed. -/
  carry : status.carry = decide (left ≥ right)
  /-- The difference of the signed numbers does not fit. -/
  overflow : status.overflow
    = (BitVec.ofNat (8 * length) left).ssubOverflow (.ofNat (8 * length) right)
  /-- The first bit of the difference. -/
  negative : status.negative = total.testBit (8 * length - 1)

namespace Added

variable {length left right total : Nat} {status : Status} (positive : 0 < length)

include positive

/-- The first bit of a word is the highest bit of its number. -/
theorem msb_ofNat (number : Nat) :
    (BitVec.ofNat (8 * length) number).msb = number.testBit (8 * length - 1) := by
  rw [BitVec.msb_eq_getLsbD_last, BitVec.getLsbD_ofNat, decide_eq_true (by omega), Bool.true_and]

/-- What bytes do not hold has no part in the sign. -/
theorem testBit_mod (number : Nat) :
    (number % 256 ^ length).testBit (8 * length - 1) = number.testBit (8 * length - 1) := by
  have words : 256 ^ length = 2 ^ (8 * length) := (Nat.pow_mul 2 8 length).symm
  rw [words, Nat.testBit_mod_two_pow, decide_eq_true (by omega), Bool.true_and]

/-- Without a carry an addition is a sum. -/
theorem longSum (added : Added length left right false total status) :
    LongSum length left right total status := by
  obtain ⟨sum, carry, overflow, negative⟩ := added
  refine ⟨sum, carry, ?_, negative⟩
  rw [overflow, BitVec.saddOverflow_eq, ← BitVec.ofNat_add, msb_ofNat positive, msb_ofNat positive,
    msb_ofNat positive, sum, testBit_mod positive]
  rfl

/-- With a carry the addition of a complement is a difference. -/
theorem longDifference {complement : Nat} (complements : complement + right + 1 = 256 ^ length)
    (added : Added length left complement true total status) :
    LongDifference length left right total status := by
  obtain ⟨sum, carry, overflow, negative⟩ := added
  have words : 256 ^ length = 2 ^ (8 * length) := (Nat.pow_mul 2 8 length).symm
  have rightSign : right.testBit (8 * length - 1) = !complement.testBit (8 * length - 1) := by
    have other : right = 2 ^ (8 * length) - (complement + 1) := by omega
    rw [other, Nat.testBit_two_pow_sub_succ (by omega), decide_eq_true (by omega), Bool.true_and]
  have shifted : 2 ^ (8 * length) - right % 2 ^ (8 * length) + left = left + complement + 1 := by
    rw [Nat.mod_eq_of_lt (by omega)]
    omega
  refine ⟨?difference, ?carry, ?overflow, negative⟩
  case difference =>
    have moved : (left : Int) - right = ((left + complement + 1 : Nat) : Int) - 256 ^ length := by
      have whole : ((complement + right + 1 : Nat) : Int) = 256 ^ length := by
        rw [complements, Nat.cast_pow]
        rfl
      omega
    rw [moved, sum, Int.sub_emod_right, Int.natCast_mod, Nat.cast_pow]
    rfl
  case carry =>
    rw [carry, decide_eq_decide, Bool.toNat_true]
    omega
  case overflow =>
    rw [overflow, BitVec.ssubOverflow_eq, BitVec.ofNat_sub_ofNat, shifted, msb_ofNat positive,
      msb_ofNat positive, msb_ofNat positive, rightSign, sum, testBit_mod positive, Bool.toNat_true]
    cases left.testBit (8 * length - 1) <;> cases complement.testBit (8 * length - 1) <;>
      cases (left + complement + 1).testBit (8 * length - 1) <;> rfl

end Added

end Nes.Cpu
