import Mathlib.Algebra.Group.Nat.Defs
import Nes.Ppu.Scroll

/-!
# The fields of scroll words

A scroll word is five numbers packed into one word. Setting one of them changes that number and no
other one, so what the chip does to scroll words is arithmetic on five numbers
(`Scroll.fields_nextColumn`, `Scroll.fields_nextLine`).
-/
namespace Nes.Ppu

/-- The number held in a range of bits. -/
def field (word : UInt16) (start width : Nat) : Nat := word.toNat / 2 ^ start % 2 ^ width

/-- The bits of a field are those of its range in the word. -/
theorem testBit_field (word : UInt16) (start width index : Nat) :
    (field word start width).testBit index
      = (decide (index < width) && word.toNat.testBit (start + index)) := by
  rw [field, Nat.testBit_mod_two_pow, Nat.testBit_div_two_pow, Nat.add_comm index start]

/-- A range that is cleared holds what is put there. -/
theorem field_of_cleared {mask : UInt16} {start width : Nat} (word put : UInt16)
    (cleared : ∀ index < width, mask.toNat.testBit (start + index) = false) :
    field (word &&& mask ||| put) start width = field put start width := by
  apply Nat.eq_of_testBit_eq
  intro index
  rw [testBit_field, testBit_field]
  by_cases inside : index < width
  · simp [inside, cleared index inside]
  · simp [inside]

/-- A range that is kept holds what it held, if nothing is put there. -/
theorem field_of_kept {mask : UInt16} {start width : Nat} (word put : UInt16)
    (kept : ∀ index < width, mask.toNat.testBit (start + index) = true)
    (nothing : field put start width = 0) :
    field (word &&& mask ||| put) start width = field word start width := by
  apply Nat.eq_of_testBit_eq
  intro index
  have empty := testBit_field put start width index
  rw [nothing, Nat.zero_testBit] at empty
  rw [testBit_field, testBit_field]
  by_cases inside : index < width
  · simp only [inside, decide_true, Bool.true_and] at empty
    simp [inside, kept index inside, ← empty]
  · simp [inside]

/-- The five numbers of a scroll word. -/
structure Fields where
  /-- The column of the tile. -/
  coarseX : Nat
  /-- The row of the tile. -/
  coarseY : Nat
  /-- The nametable across. -/
  nametableX : Nat
  /-- The nametable down. -/
  nametableY : Nat
  /-- The line within the tile. -/
  fineY : Nat
deriving DecidableEq

namespace Scroll

variable (scroll : Scroll) (value : UInt16)

/-- The five numbers of a scroll word. -/
def fields : Fields where
  coarseX := field scroll.raw 0 5
  coarseY := field scroll.raw 5 5
  nametableX := field scroll.raw 10 1
  nametableY := field scroll.raw 11 1
  fineY := field scroll.raw 12 3

/-- The bits of a mask of neighbouring bits. -/
theorem toNat_and_shiftRight (word mask shift : UInt16) {start width : Nat}
    (low : shift.toNat % 16 = start) (span : mask.toNat = (2 ^ width - 1) <<< start) :
    ((word &&& mask) >>> shift).toNat = field word start width := by
  have placed : (2 ^ width - 1) <<< start >>> start = 2 ^ width - 1 := by
    rw [Nat.shiftLeft_shiftRight]
  rw [UInt16.toNat_shiftRight, UInt16.toNat_and, low, span, Nat.shiftRight_and_distrib, placed,
    Nat.and_two_pow_sub_one_eq_mod, Nat.shiftRight_eq_div_pow]
  rfl

/-- The chip reads the tile column as the first five bits. -/
theorem toNat_coarseX : scroll.coarseX.toNat = scroll.fields.coarseX := by
  rw [coarseX, UInt16.toNat_and]
  change scroll.raw.toNat &&& 2 ^ 5 - 1 = _
  rw [Nat.and_two_pow_sub_one_eq_mod]
  exact (congrArg (· % 2 ^ 5) (Nat.div_one _)).symm

/-- The chip reads the tile row as the five bits behind them. -/
theorem toNat_coarseY : scroll.coarseY.toNat = scroll.fields.coarseY :=
  toNat_and_shiftRight scroll.raw 0x03E0 5 rfl rfl

/-- The chip reads the nametable across as the bit behind these. -/
theorem toNat_nametableX : scroll.nametableX.toNat = scroll.fields.nametableX :=
  toNat_and_shiftRight scroll.raw 0x0400 10 rfl rfl

/-- The chip reads the nametable down as the bit behind that one. -/
theorem toNat_nametableY : scroll.nametableY.toNat = scroll.fields.nametableY :=
  toNat_and_shiftRight scroll.raw 0x0800 11 rfl rfl

/-- The chip reads the line within a tile as the last three bits. -/
theorem toNat_fineY : scroll.fineY.toNat = scroll.fields.fineY :=
  toNat_and_shiftRight scroll.raw 0x7000 12 rfl rfl

/-- The five numbers are bounded by the widths of their fields. -/
theorem fields_lt :
    scroll.fields.coarseX < 32 ∧ scroll.fields.coarseY < 32 ∧ scroll.fields.nametableX < 2 ∧
      scroll.fields.nametableY < 2 ∧ scroll.fields.fineY < 8 :=
  ⟨Nat.mod_lt _ (by decide), Nat.mod_lt _ (by decide), Nat.mod_lt _ (by decide),
    Nat.mod_lt _ (by decide), Nat.mod_lt _ (by decide)⟩

/-- The low bits of a value, moved up. -/
theorem toNat_and_shiftLeft (mask shift : UInt16) (start width : Nat)
    (low : shift.toNat % 16 = start) (span : mask.toNat = 2 ^ width - 1)
    (fits : start + width ≤ 16) :
    ((value &&& mask) <<< shift).toNat = value.toNat % 2 ^ width * 2 ^ start := by
  have bound : value.toNat % 2 ^ width * 2 ^ start < 2 ^ 16 := by
    calc value.toNat % 2 ^ width * 2 ^ start
        < 2 ^ width * 2 ^ start :=
          Nat.mul_lt_mul_of_pos_right (Nat.mod_lt _ (Nat.two_pow_pos _)) (Nat.two_pow_pos _)
      _ = 2 ^ (start + width) := by rw [← Nat.pow_add, Nat.add_comm]
      _ ≤ 2 ^ 16 := Nat.pow_le_pow_right (by decide) fits
  rw [UInt16.toNat_shiftLeft, UInt16.toNat_and, low, span, Nat.and_two_pow_sub_one_eq_mod,
    Nat.shiftLeft_eq]
  exact Nat.mod_eq_of_lt bound

/-- Setting the tile column changes no other number. -/
theorem fields_setCoarseX :
    (scroll.setCoarseX value).fields = { scroll.fields with coarseX := value.toNat % 32 } := by
  have put : (value &&& 0x001F).toNat = value.toNat % 32 := by
    rw [UInt16.toNat_and]
    exact Nat.and_two_pow_sub_one_eq_mod _ 5
  simp only [fields, setCoarseX, Fields.mk.injEq]
  refine ⟨(field_of_cleared _ _ (by decide)).trans ?_, field_of_kept _ _ (by decide) ?_,
    field_of_kept _ _ (by decide) ?_, field_of_kept _ _ (by decide) ?_,
    field_of_kept _ _ (by decide) ?_⟩ <;> rw [field, put] <;> omega

/-- Setting the tile row changes no other number. -/
theorem fields_setCoarseY :
    (scroll.setCoarseY value).fields = { scroll.fields with coarseY := value.toNat % 32 } := by
  have put := toNat_and_shiftLeft value 0x001F 5 5 5 rfl rfl (by decide)
  simp only [fields, setCoarseY, Fields.mk.injEq]
  refine ⟨field_of_kept _ _ (by decide) ?_, (field_of_cleared _ _ (by decide)).trans ?_,
    field_of_kept _ _ (by decide) ?_, field_of_kept _ _ (by decide) ?_,
    field_of_kept _ _ (by decide) ?_⟩ <;> rw [field, put] <;> omega

/-- Setting the nametable across changes no other number. -/
theorem fields_setNametableX :
    (scroll.setNametableX value).fields
      = { scroll.fields with nametableX := value.toNat % 2 } := by
  have put := toNat_and_shiftLeft value 0x0001 10 10 1 rfl rfl (by decide)
  simp only [fields, setNametableX, Fields.mk.injEq]
  refine ⟨field_of_kept _ _ (by decide) ?_, field_of_kept _ _ (by decide) ?_,
    (field_of_cleared _ _ (by decide)).trans ?_, field_of_kept _ _ (by decide) ?_,
    field_of_kept _ _ (by decide) ?_⟩ <;> rw [field, put] <;> omega

/-- Setting the nametable down changes no other number. -/
theorem fields_setNametableY :
    (scroll.setNametableY value).fields
      = { scroll.fields with nametableY := value.toNat % 2 } := by
  have put := toNat_and_shiftLeft value 0x0001 11 11 1 rfl rfl (by decide)
  simp only [fields, setNametableY, Fields.mk.injEq]
  refine ⟨field_of_kept _ _ (by decide) ?_, field_of_kept _ _ (by decide) ?_,
    field_of_kept _ _ (by decide) ?_, (field_of_cleared _ _ (by decide)).trans ?_,
    field_of_kept _ _ (by decide) ?_⟩ <;> rw [field, put] <;> omega

/-- Setting the line within a tile changes no other number. -/
theorem fields_setFineY :
    (scroll.setFineY value).fields = { scroll.fields with fineY := value.toNat % 8 } := by
  have put := toNat_and_shiftLeft value 0x0007 12 12 3 rfl rfl (by decide)
  simp only [fields, setFineY, Fields.mk.injEq]
  refine ⟨field_of_kept _ _ (by decide) ?_, field_of_kept _ _ (by decide) ?_,
    field_of_kept _ _ (by decide) ?_, field_of_kept _ _ (by decide) ?_,
    (field_of_cleared _ _ (by decide)).trans ?_⟩ <;> rw [field, put] <;> omega

end Scroll

end Nes.Ppu
