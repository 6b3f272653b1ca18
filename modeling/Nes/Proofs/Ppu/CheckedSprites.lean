import Nes.Proofs.Ppu.CheckedBackground

/-!
# The arithmetic of sprites

Slots count down to their columns, sprites are compared with the line that is coming, counted, and
looked up in the pattern tables. Each function that does so is given here once more with checked
arithmetic. The row within a sprite goes round for a sprite that is not on the line, and so does
the address above the low plane.
-/
namespace Nes.Ppu

open Cartridge (SlotBounded)

namespace Sprites

/-- One dot of a slot that has not reached its column. -/
def checkedCountDown (entry : OamEntry) : Option OamEntry :=
  if entry.x = 0 then some entry else (sub? entry.x 1).map fun x => { entry with x }

/-- A column is counted down from above zero only. -/
theorem checkedCountDown_eq (entry : OamEntry) :
    checkedCountDown entry = some (countDown entry) := by
  rw [checkedCountDown, countDown]
  split
  · rfl
  · rename_i more
    have positive : 0 < entry.x.toNat :=
      Nat.pos_of_ne_zero fun zero => more (UInt8.toNat_inj.1 zero)
    have next : sub? entry.x 1 = some (entry.x - 1) := sub?_byte positive
    rw [next]
    rfl

/-- One dot of the pipeline. -/
def checkedShift (sprites : Sprites) : Option Sprites :=
  if sprites.count = 0 then some sprites
  else do
    let slots ← Vector.ofFnM fun index : Fin 8 =>
      if sprites.uses index then checkedCountDown (sprites.slots.get index)
      else some (sprites.slots.get index)
    return { sprites.shift with slots }

/-- Slots count down to zero and no further. -/
theorem checkedShift_eq (sprites : Sprites) : sprites.checkedShift = some sprites.shift := by
  have slots : (Vector.ofFnM fun index : Fin 8 =>
      if sprites.uses index then checkedCountDown (sprites.slots.get index)
      else some (sprites.slots.get index))
        = some (Vector.ofFn fun index : Fin 8 =>
      if sprites.uses index then countDown (sprites.slots.get index)
      else sprites.slots.get index) :=
    ofFnM_eq fun _ => ite_eq_some (checkedCountDown_eq _) rfl
  rw [checkedShift]
  split
  case isTrue none => rw [shift, if_pos none]
  case isFalse some =>
    rw [slots, shift, if_neg some]
    rfl

end Sprites

/-- Move the shift registers of both pipelines by one dot. -/
def checkedShiftPipelines (ppu : Ppu) : Option Ppu :=
  let ppu := if ppu.mask.showBackground then { ppu with background := ppu.background.shift }
    else ppu
  if ppu.mask.showSprites && ppu.dotWithin 1 258 then
    ppu.sprites.checkedShift.map fun sprites => { ppu with sprites }
  else some ppu

/-- Both pipelines shift exactly. -/
theorem checkedShiftPipelines_eq (ppu : Ppu) :
    ppu.checkedShiftPipelines = some ppu.shiftPipelines := by
  simp only [checkedShiftPipelines, shiftPipelines, Sprites.checkedShift_eq]
  exact ite_eq_some rfl rfl

/-- Whether the sprite is drawn on the line after `line`. -/
def OamEntry.checkedCovers (entry : OamEntry) (line : Int16) (height : Nat) : Option Bool := do
  let row ← sub? line entry.y.toUInt16.toInt16
  return 0 ≤ row.toInt && row.toInt < height

namespace Sprites

/-- The entries of sprite memory that are drawn on the line after `line`, in order. -/
def checkedOnLine (oam : Memory 256) (line : Int16) (height : Nat) : Option (List OamEntry) :=
  (OamEntry.all oam).filterM fun entry => entry.checkedCovers line height

/-- Select the sprites of the line after `line`. -/
def checkedSelect (sprites : Sprites) (oam : Memory 256) (line : Int16) (height : Nat) :
    Option Sprites := do
  let onLine ← checkedOnLine oam line height
  let entries := onLine.take spritesPerLine
  let count ← count? entries
  let zeroSelected ← (OamEntry.ofMemory oam 0).checkedCovers line height
  return { sprites with
    slots := Vector.ofFn fun index => entries[index.val]?.getD OamEntry.empty
    count
    patternLow := noPattern
    patternHigh := noPattern
    zeroSelected }

end Sprites

/-- Select the sprites of the next line. -/
def checkedSelectSprites (ppu : Ppu) : Option Ppu := do
  let height := ppu.control.spriteHeight
  let sprites ← ppu.sprites.checkedSelect ppu.oam ppu.line height
  let onLine ← Sprites.checkedOnLine ppu.oam ppu.line height
  return { ppu with
    sprites
    status := { ppu.status with
      overflow := ppu.status.overflow || decide (spritesPerLine < onLine.length) } }

/-- A byte as a signed word stands for the same number. -/
theorem toInt_signedWord (byte : UInt8) : byte.toUInt16.toInt16.toInt = byte.toNat := by
  have bound := byte.toNat_lt
  have small : 2 * byte.toUInt16.toNat < 2 ^ 16 := by
    rw [UInt8.toNat_toUInt16]
    omega
  have same : byte.toUInt16.toInt16.toInt = byte.toUInt16.toNat :=
    BitVec.toInt_eq_toNat_of_lt small
  rw [same, UInt8.toNat_toUInt16]

section Selection

variable {line : Int16} (onGrid : -1 ≤ line.toInt ∧ line.toInt ≤ 260) (height : Nat)

include onGrid

/-- The row of any line in any sprite is a number of its type. -/
theorem OamEntry.checkedCovers_eq (entry : OamEntry) :
    entry.checkedCovers line height = some (entry.covers line height) := by
  have bound := entry.y.toNat_lt
  have top := toInt_signedWord entry.y
  have row : sub? line entry.y.toUInt16.toInt16 = some (line - entry.y.toUInt16.toInt16) :=
    sub?_signed (by omega) (by omega)
  have number : (line - entry.y.toUInt16.toInt16).toInt = line.toInt - entry.y.toNat := by
    rw [Int16.toInt_sub, top]
    exact Int.bmod_eq_of_le (by omega) (by omega)
  rw [checkedCovers, row, Option.bind_eq_bind, Option.bind_some, covers, number]
  rfl

/-- The sprites of a line are found exactly. -/
theorem Sprites.checkedOnLine_eq (oam : Memory 256) :
    Sprites.checkedOnLine oam line height = some (Sprites.onLine oam line height) :=
  filterM_eq (OamEntry.checkedCovers_eq onGrid height) _

/-- The selected sprites are counted in a byte. -/
theorem Sprites.checkedSelect_eq (sprites : Sprites) (oam : Memory 256) :
    sprites.checkedSelect oam line height = some (sprites.select oam line height) := by
  have few : ((Sprites.onLine oam line height).take spritesPerLine).length ≤ 8 :=
    List.length_take_le _ _
  rw [checkedSelect, checkedOnLine_eq onGrid, Option.bind_eq_bind, Option.bind_some]
  dsimp only
  rw [count?_eq (by omega), OamEntry.checkedCovers_eq onGrid]
  rfl

end Selection

/-- On the grid, the sprites of the next line are selected exactly. -/
theorem checkedSelectSprites_eq {ppu : Ppu} (bounded : Bounded ppu) :
    ppu.checkedSelectSprites = some ppu.selectSprites := by
  rw [checkedSelectSprites, Sprites.checkedSelect_eq bounded.line,
    Sprites.checkedOnLine_eq bounded.line]
  rfl

/-- The address of a sprite's pattern. The row goes round where no sprite is. -/
def OamEntry.checkedPatternAddress (entry : OamEntry) (control : Control) (line : Int16) :
    Option UInt16 := do
  let row := (line - entry.y.toUInt16.toInt16).toUInt16
  let fine ← (if entry.flipsVertically then sub? 7 (row &&& 7) else some (row &&& 7))
  let table : UInt16 := if bit entry.tile 0 then 0x1000 else 0
  let top : UInt16 := (entry.tile &&& 0xFE).toUInt16
  let tile ← (if (row < 8) != entry.flipsVertically then some top else add? top 1)
  let smallTable : UInt16 := if control.spriteTable then 0x1000 else 0
  return if control.tallSprites then table ||| tile <<< 4 ||| fine
    else smallTable ||| entry.tile.toUInt16 <<< 4 ||| fine

/-- The address of a pattern is exact, also for a sprite that is not on the line. -/
theorem OamEntry.checkedPatternAddress_eq (entry : OamEntry) (control : Control) (line : Int16) :
    entry.checkedPatternAddress control line = some (entry.patternAddress control line) := by
  have fine (row : UInt16) : (if entry.flipsVertically then sub? 7 (row &&& 7)
      else some (row &&& 7))
        = some (if entry.flipsVertically then 7 - (row &&& 7) else row &&& 7) := by
    have low : (row &&& 7).toNat ≤ 7 := by
      rw [UInt16.toNat_and]
      exact Nat.and_le_right
    exact ite_eq_some (sub?_word low) rfl
  have next : add? (entry.tile &&& 0xFE).toUInt16 1
      = some ((entry.tile &&& 0xFE).toUInt16 + 1) := by
    have bound := (entry.tile &&& 0xFE).toNat_lt
    apply add?_word
    rw [UInt8.toNat_toUInt16]
    change _ + 1 < 65536
    omega
  rw [checkedPatternAddress, patternAddress]
  dsimp only
  rw [fine, ite_eq_some rfl next, Option.bind_eq_bind, Option.bind_some, Option.bind_some]
  split <;> rfl

/-- One plane of the pattern of a slot. -/
def checkedSpritePlane (ppu : Ppu) (slot : Option Cartridge) (entry : OamEntry)
    (offset : UInt16) : Option UInt8 := do
  let address ← entry.checkedPatternAddress ppu.control ppu.line
  let plane ← ppu.checkedReadVideo slot (address + offset)
  return if entry.flipsHorizontally then reverseBits plane else plane

/-- One plane of the patterns of the selected sprites. -/
def checkedFetchPlane (ppu : Ppu) (slot : Option Cartridge) (offset : UInt16)
    (planes : Vector UInt8 8) : Option (Vector UInt8 8) :=
  Vector.ofFnM fun index : Fin 8 =>
    if ppu.sprites.uses index then
      ppu.checkedSpritePlane slot (ppu.sprites.slots.get index) offset
    else some (planes.get index)

/-- Fetch the patterns of the selected sprites. -/
def checkedFetchSprites (ppu : Ppu) (slot : Option Cartridge) : Option Ppu := do
  let patternLow ← ppu.checkedFetchPlane slot 0 ppu.sprites.patternLow
  let patternHigh ← ppu.checkedFetchPlane slot 8 ppu.sprites.patternHigh
  return { ppu with sprites := { ppu.sprites with patternLow, patternHigh } }

section Patterns

variable {slot : Option Cartridge} (slotBounded : SlotBounded slot)

include slotBounded

/-- A plane of a pattern is looked up exactly. -/
theorem checkedSpritePlane_eq (ppu : Ppu) (entry : OamEntry) (offset : UInt16) :
    ppu.checkedSpritePlane slot entry offset = some (ppu.spritePlane slot entry offset) := by
  rw [checkedSpritePlane, OamEntry.checkedPatternAddress_eq, Option.bind_eq_bind,
    Option.bind_some, checkedReadVideo_eq slotBounded]
  rfl

/-- One plane is looked up exactly for every slot in use. -/
theorem checkedFetchPlane_eq (ppu : Ppu) (offset : UInt16) (planes : Vector UInt8 8) :
    ppu.checkedFetchPlane slot offset planes
      = some (Vector.ofFn fun index =>
        if ppu.sprites.uses index then
          ppu.spritePlane slot (ppu.sprites.slots.get index) offset
        else planes.get index) :=
  ofFnM_eq fun _ => ite_eq_some (checkedSpritePlane_eq slotBounded ppu _ offset) rfl

/-- Both planes of all sprites in use are looked up exactly. -/
theorem checkedFetchSprites_eq (ppu : Ppu) :
    ppu.checkedFetchSprites slot = some (ppu.fetchSprites slot) := by
  rw [checkedFetchSprites, checkedFetchPlane_eq slotBounded, Option.bind_eq_bind,
    Option.bind_some, checkedFetchPlane_eq slotBounded, Option.bind_some]
  rfl

end Patterns

end Nes.Ppu
