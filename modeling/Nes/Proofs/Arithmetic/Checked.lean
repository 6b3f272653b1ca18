import Nes.Memory

/-!
# Checked arithmetic

The machine counts in words of a fixed width. Some of its arithmetic is meant to go round at the
end of a word: the program counter, the stack pointer, addresses of memory. All other arithmetic is
meant to give the exact number, and would be wrong where it does not fit. The operations here are
that second kind: they have a result only where the exact number is one that the type holds, and
where a word is shifted by fewer places than it has. Shifts by a fixed number of places need no
check, and have none.

A function `checkedF` is `f` read with these operations. That it gives `some` of what `f` gives
says that no operation of `f` leaves its type.
-/
namespace Nes

/-- A type of machine integers. -/
class MachineInteger (α : Type) where
  /-- The number that a value stands for. -/
  number : α → Int
  /-- The least number of the type. -/
  least : Int
  /-- The greatest number of the type. -/
  greatest : Int

instance : MachineInteger UInt8 := ⟨fun value => value.toNat, 0, 255⟩

instance : MachineInteger UInt16 := ⟨fun value => value.toNat, 0, 65535⟩

instance : MachineInteger UInt32 := ⟨fun value => value.toNat, 0, 4294967295⟩

instance : MachineInteger Int16 := ⟨Int16.toInt, -32768, 32767⟩

/-- A natural number stands for an offset into memory, which has at least 32 bits. -/
instance : MachineInteger Nat := ⟨fun value => value, 0, 4294967295⟩

section Operations

variable {α : Type} [MachineInteger α]

open MachineInteger (number least greatest)

/-- The result of an operation, if the exact number is one that the type holds. -/
def within? (exactNumber : Int) (result : α) : Option α :=
  if least α ≤ exactNumber ∧ exactNumber ≤ greatest α then some result else none

/-- A sum that fits. -/
def add? [Add α] (left right : α) : Option α := within? (number left + number right) (left + right)

/-- A difference that fits. -/
def sub? [Sub α] (left right : α) : Option α := within? (number left - number right) (left - right)

/-- A product that fits. -/
def mul? [Mul α] (left right : α) : Option α := within? (number left * number right) (left * right)

end Operations

/-- A shift of a word to the right by fewer places than it has. -/
def shiftRight? (word : UInt16) (places : UInt8) : Option UInt16 :=
  if places < 16 then some (word >>> places.toUInt16) else none

/-- A sum of bytes that is below 256 is exact. -/
theorem add?_byte {left right : UInt8} (fits : left.toNat + right.toNat < 256) :
    add? left right = some (left + right) := by
  apply if_pos
  change (0 : Int) ≤ left.toNat + right.toNat ∧ (left.toNat : Int) + right.toNat ≤ 255
  omega

/-- A difference of bytes is exact where it is not negative. -/
theorem sub?_byte {left right : UInt8} (fits : right.toNat ≤ left.toNat) :
    sub? left right = some (left - right) := by
  have bound := left.toNat_lt
  apply if_pos
  change (0 : Int) ≤ left.toNat - right.toNat ∧ (left.toNat : Int) - right.toNat ≤ 255
  omega

/-- A sum of words that is below 65536 is exact. -/
theorem add?_word {left right : UInt16} (fits : left.toNat + right.toNat < 65536) :
    add? left right = some (left + right) := by
  apply if_pos
  change (0 : Int) ≤ left.toNat + right.toNat ∧ (left.toNat : Int) + right.toNat ≤ 65535
  omega

/-- A difference of words is exact where it is not negative. -/
theorem sub?_word {left right : UInt16} (fits : right.toNat ≤ left.toNat) :
    sub? left right = some (left - right) := by
  have bound := left.toNat_lt
  apply if_pos
  change (0 : Int) ≤ left.toNat - right.toNat ∧ (left.toNat : Int) - right.toNat ≤ 65535
  omega

/-- A sum of double words that fits 32 bits is exact. -/
theorem add?_doubleWord {left right : UInt32} (fits : left.toNat + right.toNat < 4294967296) :
    add? left right = some (left + right) := by
  apply if_pos
  change (0 : Int) ≤ left.toNat + right.toNat ∧ (left.toNat : Int) + right.toNat ≤ 4294967295
  omega

/-- A product of double words that fits 32 bits is exact. -/
theorem mul?_doubleWord {left right : UInt32} (fits : left.toNat * right.toNat < 4294967296) :
    mul? left right = some (left * right) := by
  apply if_pos
  change (0 : Int) ≤ left.toNat * right.toNat ∧ (left.toNat : Int) * right.toNat ≤ 4294967295
  rw [← Int.natCast_mul]
  omega

/-- A sum of signed words is exact within their range. -/
theorem add?_signed {left right : Int16} (low : -32768 ≤ left.toInt + right.toInt)
    (high : left.toInt + right.toInt < 32768) : add? left right = some (left + right) := by
  apply if_pos
  change -32768 ≤ left.toInt + right.toInt ∧ left.toInt + right.toInt ≤ 32767
  omega

/-- A difference of signed words is exact within their range. -/
theorem sub?_signed {left right : Int16} (low : -32768 ≤ left.toInt - right.toInt)
    (high : left.toInt - right.toInt < 32768) : sub? left right = some (left - right) := by
  apply if_pos
  change -32768 ≤ left.toInt - right.toInt ∧ left.toInt - right.toInt ≤ 32767
  omega

/-- A sum of offsets that fits 32 bits is exact. -/
theorem add?_offset {left right : Nat} (fits : left + right < 4294967296) :
    add? left right = some (left + right) := by
  apply if_pos
  change (0 : Int) ≤ left + right ∧ (left : Int) + right ≤ 4294967295
  omega

/-- A product of offsets that fits 32 bits is exact. -/
theorem mul?_offset {left right : Nat} (fits : left * right < 4294967296) :
    mul? left right = some (left * right) := by
  apply if_pos
  change (0 : Int) ≤ left * right ∧ (left : Int) * right ≤ 4294967295
  rw [← Int.natCast_mul]
  omega

/-- A shift by fewer places than a word has is one that the checked shift does. -/
theorem shiftRight?_eq (word : UInt16) {places : UInt8} (fits : places < 16) :
    shiftRight? word places = some (word >>> places.toUInt16) := if_pos fits

section Together

variable {α : Type}

/-- A choice between two results is a result. -/
theorem ite_eq_some {condition : Prop} [Decidable condition] {first second : Option α}
    {left right : α} (one : first = some left) (other : second = some right) :
    (if condition then first else second) = some (if condition then left else right) := by
  rw [one, other]
  split <;> rfl

/-- A vector of results is one result, if every place has one. -/
theorem ofFnM_eq {size : Nat} {result : Fin size → Option α} {value : Fin size → α}
    (found : ∀ index, result index = some (value index)) :
    Vector.ofFnM result = some (Vector.ofFn value) := by
  obtain rfl : result = fun index => some (value index) := funext found
  exact Vector.ofFnM_pure_comp

section Conditions

variable {condition : α → Option Bool} {decides : α → Bool}
  (found : ∀ element, condition element = some (decides element))

include found

/-- The elements that have been picked so far are kept in the opposite order. -/
theorem filterAuxM_eq (elements picked : List α) :
    elements.filterAuxM condition picked
      = some ((elements.filter decides).reverse ++ picked) := by
  induction elements generalizing picked with
  | nil => rfl
  | cons element rest ih =>
    rw [List.filterAuxM, found, Option.bind_eq_bind, Option.bind_some, ih, List.filter_cons]
    cases decides element <;> simp

/-- A list is filtered by a condition that can be decided for every element. -/
theorem filterM_eq (elements : List α) :
    elements.filterM condition = some (elements.filter decides) := by
  rw [List.filterM, filterAuxM_eq found, Option.bind_eq_bind, Option.bind_some]
  simp

end Conditions

end Together

/-- The length of a list, counted up one by one in a byte. -/
def count? {α : Type} : List α → Option UInt8
  | [] => some 0
  | _ :: rest => do
    let others ← count? rest
    add? others 1

/-- A list of fewer elements than a byte has values is counted by a byte. -/
theorem count?_eq {α : Type} {elements : List α} (fits : elements.length < 256) :
    count? elements = some elements.length.toUInt8 := by
  induction elements with
  | nil => rfl
  | cons element rest ih =>
    rw [List.length_cons] at fits
    have small : rest.length.toUInt8.toNat = rest.length := by
      change rest.length % 256 = rest.length
      omega
    have next : rest.length.toUInt8 + 1 = (rest.length + 1).toUInt8 := by
      apply UInt8.toNat_inj.1
      rw [UInt8.toNat_add, small]
      rfl
    have sum : add? rest.length.toUInt8 1 = some (rest.length.toUInt8 + 1) := by
      apply add?_byte
      rw [small]
      exact fits
    rw [count?, ih (by omega), List.length_cons, ← next, ← sum, Option.bind_eq_bind,
      Option.bind_some]

end Nes
