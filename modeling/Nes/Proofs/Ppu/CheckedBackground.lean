import Nes.Proofs.Cartridge.Checked
import Nes.Proofs.Ppu.Bounds
import Nes.Proofs.Ppu.Nametables

/-!
# The arithmetic of the background

The chip works out addresses in video memory and steps over tiles and lines. Each function that does
is given here once more with checked arithmetic. Fields of a scroll word are small whatever the word
is, so all that these functions need is a place on the grid and a slot within its bounds. The
address of an access to video memory is cut, never out of range.
-/
namespace Nes.Ppu

open Cartridge (SlotBounded slotReadCharacter? slotReadCharacter?_eq)

namespace Bounded

variable {ppu : Ppu} (bounded : Bounded ppu)

include bounded

/-- The number of the next dot fits. -/
theorem add?_dot : add? ppu.dot 1 = some (ppu.dot + 1) := by
  obtain ⟨low, high⟩ := bounded.dot
  have one : (1 : Int16).toInt = 1 := rfl
  apply add?_signed <;> omega

/-- So does the number of the dot before. -/
theorem sub?_dot : sub? ppu.dot 1 = some (ppu.dot - 1) := by
  obtain ⟨low, high⟩ := bounded.dot
  have one : (1 : Int16).toInt = 1 := rfl
  apply sub?_signed <;> omega

/-- The line after one of the grid is a number of its type. -/
theorem add?_line : add? ppu.line 1 = some (ppu.line + 1) := by
  obtain ⟨low, high⟩ := bounded.line
  have one : (1 : Int16).toInt = 1 := rfl
  apply add?_signed <;> omega

end Bounded

/-- Read video memory. What the cartridge does not claim is read without arithmetic. -/
def checkedReadVideo (ppu : Ppu) (slot : Option Cartridge) (address : UInt16) : Option UInt8 := do
  match ← slotReadCharacter? slot (address &&& 0x3FFF) with
  | some value => return value
  | none => return ppu.readVideo (OpenSlot.mk (CartridgeSide.mirroring slot) 0) address

section Video

variable {slot : Option Cartridge} (slotBounded : SlotBounded slot)

include slotBounded

/-- A read of video memory does its arithmetic exactly, wherever the address leads. -/
theorem checkedReadVideo_eq (ppu : Ppu) (address : UInt16) :
    ppu.checkedReadVideo slot address = some (ppu.readVideo slot address) := by
  rw [checkedReadVideo, slotReadCharacter?_eq slotBounded, Option.bind_eq_bind, Option.bind_some]
  rcases found : CartridgeSide.readCharacter slot (address &&& 0x3FFF) with _ | value <;>
    simp only [readVideo, found] <;> rfl

end Video

namespace Scroll

/-- A field of a scroll word has at most five bits, so one more fits. -/
theorem add?_field {field : UInt16} (small : field.toNat < 32) :
    add? field 1 = some (field + 1) := by
  apply add?_word
  change field.toNat + 1 < 65536
  omega

/-- One tile to the right. -/
def checkedNextColumn (scroll : Scroll) : Option Scroll :=
  if scroll.coarseX = 31 then
    some ((scroll.setCoarseX 0).setNametableX (~~~scroll.nametableX))
  else (add? scroll.coarseX 1).map scroll.setCoarseX

/-- A step to the right counts no column past 31. -/
theorem checkedNextColumn_eq (scroll : Scroll) :
    scroll.checkedNextColumn = some scroll.nextColumn := by
  have next : add? scroll.coarseX 1 = some (scroll.coarseX + 1) :=
    add?_field (scroll.toNat_coarseX ▸ scroll.fields_lt.1)
  rw [checkedNextColumn, nextColumn, next]
  split <;> rfl

/-- One line down. -/
def checkedNextLine (scroll : Scroll) : Option Scroll :=
  if scroll.fineY < 7 then (add? scroll.fineY 1).map scroll.setFineY
  else
    let scroll := scroll.setFineY 0
    if scroll.coarseY = 29 then
      some ((scroll.setCoarseY 0).setNametableY (~~~scroll.nametableY))
    else if scroll.coarseY = 31 then some (scroll.setCoarseY 0)
    else (add? scroll.coarseY 1).map scroll.setCoarseY

/-- A step down counts no line past those of a tile and of a nametable. -/
theorem checkedNextLine_eq (scroll : Scroll) :
    scroll.checkedNextLine = some scroll.nextLine := by
  have nextFine : add? scroll.fineY 1 = some (scroll.fineY + 1) :=
    add?_field (scroll.toNat_fineY ▸ Nat.lt_trans scroll.fields_lt.2.2.2.2 (by decide))
  have nextRow (scroll : Scroll) : add? scroll.coarseY 1 = some (scroll.coarseY + 1) :=
    add?_field (scroll.toNat_coarseY ▸ scroll.fields_lt.2.1)
  rw [checkedNextLine, nextLine, nextFine]
  dsimp only
  rw [nextRow]
  split
  · rfl
  split
  · rfl
  split <;> rfl

end Scroll

/-- Change the scroll word while anything is shown. -/
def checkedMoveScroll (ppu : Ppu) (change : Scroll → Option Scroll) : Option Ppu :=
  if ppu.mask.rendering then (change ppu.scroll).map fun scroll => { ppu with scroll }
  else some ppu

/-- The scroll word is moved exactly if the change of it is exact. -/
theorem checkedMoveScroll_eq {change : Scroll → Scroll} {checkedChange : Scroll → Option Scroll}
    (exactly : ∀ scroll, checkedChange scroll = some (change scroll)) (ppu : Ppu) :
    ppu.checkedMoveScroll checkedChange = some (ppu.moveScroll change) := by
  rw [checkedMoveScroll, moveScroll, exactly]
  split <;> rfl

/-- Fetch the number of the next tile. -/
def checkedFetchTile (ppu : Ppu) (slot : Option Cartridge) : Option Ppu := do
  let tile ← ppu.checkedReadVideo slot ppu.scroll.tileAddress
  return { ppu with background := { ppu.background with nextTile := tile } }

/-- Fetch the palette of the next tile. -/
def checkedFetchAttribute (ppu : Ppu) (slot : Option Cartridge) : Option Ppu := do
  let byte ← ppu.checkedReadVideo slot ppu.scroll.attributeAddress
  return { ppu with
    background := { ppu.background with nextAttribute := ppu.scroll.attributeOf byte } }

/-- The address of the low plane of the next tile. -/
def checkedPatternAddress (ppu : Ppu) : Option UInt16 := do
  let table : UInt16 := if ppu.control.backgroundTable then 0x1000 else 0
  let tile ← add? table (ppu.background.nextTile.toUInt16 <<< 4)
  add? tile ppu.scroll.fineY

/-- Fetch the low plane of the next tile. -/
def checkedFetchLow (ppu : Ppu) (slot : Option Cartridge) : Option Ppu := do
  let address ← ppu.checkedPatternAddress
  let plane ← ppu.checkedReadVideo slot address
  return { ppu with background := { ppu.background with nextLow := plane } }

/-- Fetch the high plane of the next tile. -/
def checkedFetchHigh (ppu : Ppu) (slot : Option Cartridge) : Option Ppu := do
  let low ← ppu.checkedPatternAddress
  let address ← add? low 8
  let plane ← ppu.checkedReadVideo slot address
  return { ppu with background := { ppu.background with nextHigh := plane } }

/-- The step of the background pipeline that falls to the current dot. -/
def checkedFetchBackground (ppu : Ppu) (slot : Option Cartridge) : Option Ppu := do
  let step ← sub? ppu.dot 1
  match step.toNatClampNeg % 8 with
  | 0 => ppu.loadBackground.checkedFetchTile slot
  | 2 => ppu.checkedFetchAttribute slot
  | 4 => ppu.checkedFetchLow slot
  | 6 => ppu.checkedFetchHigh slot
  | 7 => ppu.checkedMoveScroll Scroll.checkedNextColumn
  | _ => return ppu

/-- All of a pattern table lies below 64 KiB. -/
theorem checkedPatternAddress_eq (ppu : Ppu) :
    ppu.checkedPatternAddress = some ppu.patternAddress := by
  have tileBound := ppu.background.nextTile.toNat_lt
  have fineBound := ppu.scroll.fields_lt.2.2.2.2
  have start := toNat_tileStart ppu.background.nextTile
  have small : (if ppu.control.backgroundTable then 0x1000 else 0 : UInt16).toNat ≤ 0x1000 := by
    split <;> decide
  simp only [checkedPatternAddress, patternAddress]
  generalize (if ppu.control.backgroundTable then 0x1000 else 0 : UInt16) = table at small ⊢
  have tile : add? table (ppu.background.nextTile.toUInt16 <<< 4)
      = some (table + ppu.background.nextTile.toUInt16 <<< 4) := add?_word (by omega)
  rw [tile, Option.bind_eq_bind, Option.bind_some]
  apply add?_word
  rw [UInt16.toNat_add, start, ppu.scroll.toNat_fineY]
  omega

section Tiles

variable {slot : Option Cartridge} (slotBounded : SlotBounded slot)

include slotBounded

/-- The address of a tile in its nametable is exact. -/
theorem checkedFetchTile_eq (ppu : Ppu) :
    ppu.checkedFetchTile slot = some (ppu.fetchTile slot) := by
  rw [checkedFetchTile, checkedReadVideo_eq slotBounded]
  rfl

/-- The address of a palette in its nametable is exact. -/
theorem checkedFetchAttribute_eq (ppu : Ppu) :
    ppu.checkedFetchAttribute slot = some (ppu.fetchAttribute slot) := by
  rw [checkedFetchAttribute, checkedReadVideo_eq slotBounded]
  rfl

/-- The address of the low plane of a tile is exact. -/
theorem checkedFetchLow_eq (ppu : Ppu) : ppu.checkedFetchLow slot = some (ppu.fetchLow slot) := by
  rw [checkedFetchLow, checkedPatternAddress_eq, Option.bind_eq_bind, Option.bind_some,
    checkedReadVideo_eq slotBounded]
  rfl

/-- The address of the high plane of a tile is exact. -/
theorem checkedFetchHigh_eq (ppu : Ppu) :
    ppu.checkedFetchHigh slot = some (ppu.fetchHigh slot) := by
  have high : add? ppu.patternAddress 8 = some (ppu.patternAddress + 8) := by
    have bound := ppu.patternAddress_lt
    apply add?_word
    change _ + 8 < 65536
    omega
  rw [checkedFetchHigh, checkedPatternAddress_eq, Option.bind_eq_bind, Option.bind_some, high,
    Option.bind_some, checkedReadVideo_eq slotBounded]
  rfl

/-- On the grid, the step of the pipeline that falls to a dot is worked out exactly. -/
theorem checkedFetchBackground_eq {ppu : Ppu} (bounded : Bounded ppu) :
    ppu.checkedFetchBackground slot = some (ppu.fetchBackground slot) := by
  rw [checkedFetchBackground, bounded.sub?_dot, Option.bind_eq_bind, Option.bind_some,
    fetchBackground]
  have tile := checkedFetchTile_eq slotBounded ppu.loadBackground
  have palette := checkedFetchAttribute_eq slotBounded ppu
  have low := checkedFetchLow_eq slotBounded ppu
  have high := checkedFetchHigh_eq slotBounded ppu
  have column := checkedMoveScroll_eq Scroll.checkedNextColumn_eq ppu
  generalize (ppu.dot - 1).toNatClampNeg % 8 = step
  obtain _ | _ | _ | _ | _ | _ | _ | _ | _ := step
  exacts [tile, rfl, palette, rfl, low, rfl, high, column, rfl]

end Tiles

end Nes.Ppu
