import Nes.Ppu.Dot
import Nes.Proofs.Ppu.IndexedMemory

/-!
# Indexes of sprite slots

The slots are gone over by loops. How many of them are in use is a byte of the state, so it may be
any number up to 255, and the loops stop at the eighth slot whatever it is (`Sprites.active`).
Selecting sprites stores each of them at the number of those before it, and ends at the ninth. The
loops are given here turn by turn, and meet at each turn what the pipeline says of one slot.
-/
namespace Nes.Ppu

namespace Sprites

/-- The number of slots that loops go over. -/
def active (sprites : Sprites) : Nat := min sprites.count.toNat spritesPerLine

section Active

variable (sprites : Sprites)

/-- Loops over the slots stop at the eighth one, whatever the count says. -/
theorem active_le : sprites.active ≤ 8 := Nat.min_le_right _ _

/-- Loops go over the slots in use. -/
theorem uses_eq (index : Fin 8) : sprites.uses index = decide (index.val < sprites.active) := by
  have bound := index.isLt
  rw [uses, active, decide_eq_decide, Nat.lt_min]
  exact ⟨fun used => ⟨used, bound⟩, And.left⟩

end Active

/-- One dot of a slot. -/
def indexedShiftSlot (sprites : Sprites) (index : Nat) : Option Sprites := do
  let entry ← sprites.slots[index]?
  if 0 < entry.x then
    let slots ← put? sprites.slots index { entry with x := entry.x - 1 }
    return { sprites with slots }
  else
    let low ← sprites.patternLow[index]?
    let patternLow ← put? sprites.patternLow index (low <<< 1)
    let high ← sprites.patternHigh[index]?
    let patternHigh ← put? sprites.patternHigh index (high <<< 1)
    return { sprites with patternLow, patternHigh }

/-- One dot of the pipeline. -/
def indexedShift (sprites : Sprites) : Option Sprites :=
  (List.range sprites.active).foldlM indexedShiftSlot sprites

/-- All slots after one dot, in use or not. -/
def movedSlots (sprites : Sprites) : Vector OamEntry 8 :=
  sprites.slots.map countDown

/-- A plane of all slots after one dot, in use or not. -/
def movedPlane (sprites : Sprites) (plane : Vector UInt8 8) : Vector UInt8 8 :=
  .zipWith (fun (entry : OamEntry) (row : UInt8) => if entry.x = 0 then row <<< 1 else row)
    sprites.slots plane

/-- The pipeline in the middle of a dot: the slots before a bound have been moved. -/
def shiftedBefore (sprites : Sprites) (bound : Nat) : Sprites :=
  { sprites with
    slots := spliced bound sprites.movedSlots sprites.slots
    patternLow := spliced bound (sprites.movedPlane sprites.patternLow) sprites.patternLow
    patternHigh := spliced bound (sprites.movedPlane sprites.patternHigh) sprites.patternHigh }

section Shift

variable (sprites : Sprites)

/-- Before the first turn no slot has moved. -/
theorem shiftedBefore_zero : sprites.shiftedBefore 0 = sprites := by
  simp only [shiftedBefore, spliced_zero]

/-- A dot moves just the slots in use. -/
theorem shiftedBefore_active : sprites.shiftedBefore sprites.active = sprites.shift := by
  by_cases none : sprites.count = 0
  · have empty : sprites.active = 0 := by
      rw [active, none]
      rfl
    rw [shift, if_pos none, empty, shiftedBefore_zero]
  · rw [shift, if_neg none]
    have slot (index : Fin 8) : sprites.movedSlots.get index = countDown sprites.slots[index] :=
      Vector.getElem_map _ index.isLt
    have row (plane : Vector UInt8 8) (index : Fin 8) : (sprites.movedPlane plane).get index
        = if sprites.slots[index].x = 0 then plane[index] <<< 1 else plane[index] :=
      Vector.getElem_zipWith index.isLt
    simp only [shiftedBefore, spliced, slot, row, uses_eq, decide_eq_true_eq, Bool.and_eq_true,
      beq_iff_eq, ite_and]
    rfl

section Slot

variable {index : Nat} (inside : index < 8)

/-- A plane goes on where its slot has reached its column. -/
theorem put?_movedPlane (plane : Vector UInt8 8) (arrived : sprites.slots[index].x = 0) :
    put? (spliced index (sprites.movedPlane plane) plane) index (plane[index] <<< 1)
      = some (spliced (index + 1) (sprites.movedPlane plane) plane) := by
  have moved : (sprites.movedPlane plane)[index] = plane[index] <<< 1 := by
    rw [movedPlane, Vector.getElem_zipWith]
    exact if_pos arrived
  rw [← moved]
  exact put?_spliced _ _ inside

/-- Elsewhere it stays. -/
theorem movedPlane_of_waiting (plane : Vector UInt8 8) (waiting : ¬sprites.slots[index].x = 0) :
    spliced (index + 1) (sprites.movedPlane plane) plane
      = spliced index (sprites.movedPlane plane) plane := by
  apply spliced_of_eq _ _ inside
  rw [movedPlane, Vector.getElem_zipWith]
  exact if_neg waiting

include inside in
/-- A turn moves the slot of its index, and all others stay. -/
theorem indexedShiftSlot_eq :
    indexedShiftSlot (sprites.shiftedBefore index) index
      = some (sprites.shiftedBefore (index + 1)) := by
  have moved : sprites.movedSlots[index] = countDown sprites.slots[index] :=
    Vector.getElem_map _ inside
  rw [indexedShiftSlot]
  simp only [shiftedBefore, getElem?_spliced _ _ inside, Option.bind_eq_bind, Option.bind_some]
  by_cases arrived : sprites.slots[index].x = 0
  · have stays : spliced (index + 1) sprites.movedSlots sprites.slots
        = spliced index sprites.movedSlots sprites.slots := by
      apply spliced_of_eq _ _ inside
      rw [moved, countDown, if_pos arrived]
    rw [if_neg (by rw [arrived]; decide), put?_movedPlane _ inside _ arrived, Option.bind_some,
      put?_movedPlane _ inside _ arrived, stays]
    rfl
  · have counted : put? (spliced index sprites.movedSlots sprites.slots) index
        { sprites.slots[index] with x := sprites.slots[index].x - 1 }
        = some (spliced (index + 1) sprites.movedSlots sprites.slots) := by
      rw [← put?_spliced _ _ inside, moved, countDown, if_neg arrived]
    rw [if_pos (UInt8.pos_iff_ne_zero.2 arrived), counted, movedPlane_of_waiting _ inside _ arrived,
      movedPlane_of_waiting _ inside _ arrived]
    rfl

end Slot

/-- The loop over the slots in use is one dot of the pipeline. -/
theorem indexedShift_eq : sprites.indexedShift = some sprites.shift := by
  have turns := foldlM_range_eq fun index (inside : index < sprites.active) =>
    sprites.indexedShiftSlot_eq (Nat.lt_of_lt_of_le inside sprites.active_le)
  rw [shiftedBefore_zero, shiftedBefore_active] at turns
  exact turns

end Shift

/-- The colour number that a slot in use shows at the current dot. -/
def indexedColorOf (sprites : Sprites) (index : Nat) : Option UInt8 := do
  let entry ← sprites.slots[index]?
  if entry.x = 0 then
    let high ← sprites.patternHigh[index]?
    let low ← sprites.patternLow[index]?
    return Background.pairOf (bit high 7) (bit low 7)
  else return 0

/-- The first slot that shows an opaque colour. -/
def indexedShown (sprites : Sprites) : Option (Option Nat) :=
  (List.range sprites.active).findM? fun index => do
    let color ← sprites.indexedColorOf index
    return color != 0

/-- The foreground of the current dot, and the pipeline with its source noted. -/
def indexedForeground (sprites : Sprites) : Option (Foreground × Sprites) := do
  match ← sprites.indexedShown with
  | none => return (.clear, { sprites with zeroShown := false })
  | some index =>
    let entry ← sprites.slots[index]?
    let color ← sprites.indexedColorOf index
    return (⟨⟨entry.palette, color⟩, !entry.liesBehind⟩,
      { sprites with zeroShown := index == 0 })

section Foreground

variable (sprites : Sprites)

/-- The colour of a slot in use is read from a slot and two patterns that there are. -/
theorem indexedColorOf_eq {index : Nat} (used : index < sprites.active) :
    sprites.indexedColorOf index
      = some (sprites.colorOf ⟨index, Nat.lt_of_lt_of_le used sprites.active_le⟩) := by
  have inside : index < 8 := Nat.lt_of_lt_of_le used sprites.active_le
  have inUse : sprites.uses index = true :=
    (sprites.uses_eq ⟨index, inside⟩).trans (decide_eq_true used)
  have cell {α : Type} (cells : Vector α 8) : cells[index]? = some cells[index] :=
    Vector.getElem?_eq_getElem inside
  rw [indexedColorOf, colorOf, cell, cell, cell, inUse, Option.bind_eq_bind, Option.bind_some]
  by_cases arrived : sprites.slots[index].x = 0
  · have shows : (sprites.slots[index].x == 0) = true := beq_iff_eq.2 arrived
    rw [if_pos arrived, Fin.getElem_fin, shows]
    rfl
  · have waits : (sprites.slots[index].x == 0) = false := beq_eq_false_iff_ne.2 arrived
    rw [if_neg arrived, Fin.getElem_fin, waits]
    rfl

/-- A slot that is not in use shows nothing. -/
theorem colorOf_of_unused {index : Fin 8} (unused : ¬index.val < sprites.active) :
    sprites.colorOf index = 0 := by
  have idle : sprites.uses index = false := (sprites.uses_eq index).trans (decide_eq_false unused)
  rw [colorOf, idle]
  rfl

/-- Whether the slot of an index shows an opaque colour; other indexes show none. -/
def showsAt (index : Nat) : Bool :=
  if inside : index < 8 then sprites.colorOf ⟨index, inside⟩ != 0 else false

/-- A search over the slots in use finds what one over all of them does. -/
theorem find?_active :
    (List.range sprites.active).find? sprites.showsAt = sprites.shown?.map Fin.val := by
  have small := sprites.active_le
  have eight : 8 = sprites.active + (8 - sprites.active) := by omega
  have late : ((List.range (8 - sprites.active)).map (sprites.active + ·)).find? sprites.showsAt
      = none := by
    rw [List.find?_eq_none]
    intro place among
    obtain ⟨offset, -, rfl⟩ := List.mem_map.1 among
    rw [showsAt]
    split
    case isTrue inside =>
      rw [colorOf_of_unused sprites (show ¬sprites.active + offset < sprites.active by omega)]
      decide
    case isFalse => decide
  have whole : (List.range 8).find? sprites.showsAt
      = (List.range sprites.active).find? sprites.showsAt := by
    rw [eight, List.range_add, List.find?_append, late, Option.or_none]
  rw [← whole, ← List.map_coe_finRange_eq_range, List.find?_map, shown?]
  congr 2
  funext index
  exact dif_pos index.isLt

/-- The search over the slots in use finds the one that is shown. -/
theorem indexedShown_eq : sprites.indexedShown = some (sprites.shown?.map Fin.val) := by
  rw [indexedShown, ← find?_active]
  apply findM?_eq
  intro index among
  have used := List.mem_range.1 among
  have inside : index < 8 := Nat.lt_of_lt_of_le used sprites.active_le
  rw [sprites.indexedColorOf_eq used, showsAt, dif_pos inside]
  rfl

/-- The slot that shows its colour is one in use. -/
theorem used_of_shown {index : Fin 8} (shown : sprites.shown? = some index) :
    index.val < sprites.active := by
  by_contra unused
  have color := List.find?_some shown
  rw [colorOf_of_unused sprites unused] at color
  cases color

/-- The foreground is taken from a slot that there is. -/
theorem indexedForeground_eq : sprites.indexedForeground = some sprites.foreground := by
  rw [indexedForeground, indexedShown_eq, foreground, Option.bind_eq_bind, Option.bind_some]
  cases shown : sprites.shown? with
  | none => rfl
  | some index =>
    have cell : sprites.slots[index.val]? = some sprites.slots[index] :=
      Vector.getElem?_eq_getElem index.isLt
    have first : (index.val == 0) = (index == 0) := by
      rw [Bool.eq_iff_iff, beq_iff_eq, beq_iff_eq, Fin.ext_iff]
      rfl
    dsimp only [Option.map_some]
    rw [cell, indexedColorOf_eq sprites (used_of_shown sprites shown), first]
    rfl

end Foreground

end Sprites

namespace OamEntry

/-- The entry at an index of sprite memory. -/
def indexed (oam : Memory 256) (index : Nat) : Option OamEntry := do
  let y ← oam.get? (4 * index)
  let tile ← oam.get? (4 * index + 1)
  let attributes ← oam.get? (4 * index + 2)
  let x ← oam.get? (4 * index + 3)
  return ⟨y, tile, attributes, x⟩

/-- The 64 entries of sprite memory in order. -/
def indexedAll (oam : Memory 256) : Option (List OamEntry) := (List.range 64).mapM (indexed oam)

/-- An entry below the 64th has its four bytes in sprite memory. -/
theorem indexed_eq (oam : Memory 256) {index : Nat} (inside : index < 64) :
    indexed oam index = some (ofMemory oam index) := by
  have cell {place : Nat} (within : place < 256) := oam.get?_eq within
  rw [indexed, cell (by omega), cell (by omega), cell (by omega), cell (by omega)]
  rfl

/-- All 64 entries have their bytes in sprite memory. -/
theorem indexedAll_eq (oam : Memory 256) : indexedAll oam = some (all oam) :=
  mapM_eq fun _ among => indexed_eq oam (List.mem_range.1 among)

end OamEntry

namespace Sprites

/-- Put the entries that are drawn on the line after `line` into the slots, one after the other. The
ninth one is an overflow, and ends it. -/
def indexedFill (line : Int16) (height : Nat) :
    List OamEntry → Sprites → Option (Sprites × Bool)
  | [], sprites => some (sprites, false)
  | entry :: rest, sprites =>
    if entry.covers line height then
      if sprites.count.toNat = spritesPerLine then some (sprites, true)
      else do
        let slots ← put? sprites.slots sprites.count.toNat entry
        indexedFill line height rest { sprites with slots, count := sprites.count + 1 }
    else indexedFill line height rest sprites

/-- The pipeline without a selected sprite. -/
def cleared (sprites : Sprites) (zeroSelected : Bool) : Sprites :=
  { sprites with
    slots := Vector.replicate 8 OamEntry.empty
    count := 0
    patternLow := noPattern
    patternHigh := noPattern
    zeroSelected }

/-- The pipeline with the given entries in its slots. -/
def holding (sprites : Sprites) (entries : List OamEntry) : Sprites :=
  { sprites with
    slots := Vector.ofFn fun index => entries[index.val]?.getD OamEntry.empty
    count := entries.length.toUInt8 }

/-- A cleared pipeline holds no entries. -/
theorem cleared_eq (sprites : Sprites) (zeroSelected : Bool) :
    sprites.cleared zeroSelected = (sprites.cleared zeroSelected).holding [] := by
  have empty : Vector.replicate 8 OamEntry.empty
      = Vector.ofFn fun index : Fin 8 => ([] : List OamEntry)[index.val]?.getD OamEntry.empty := by
    rfl
  rw [holding, ← empty]
  rfl

section Fill

variable (sprites : Sprites) {taken : List OamEntry}

/-- As long as there are fewer than eight sprites, the number of them names the next free slot. -/
theorem put?_holding (entry : OamEntry) (room : taken.length < 8) :
    put? (sprites.holding taken).slots taken.length entry
      = some (sprites.holding (taken ++ [entry])).slots := by
  rw [put?_eq _ room]
  congr 1
  apply Vector.ext
  intro place inside
  simp only [holding, Vector.getElem_set, Vector.getElem_ofFn]
  by_cases here : taken.length = place
  · rw [if_pos here, ← here, List.getElem?_concat_length]
    rfl
  · rw [if_neg here]
    by_cases before : place < taken.length
    · rw [List.getElem?_append_left before]
    · have past : (taken ++ [entry]).length ≤ place := by
        rw [List.length_append, List.length_singleton]
        omega
      rw [List.getElem?_eq_none (Nat.not_lt.1 before), List.getElem?_eq_none past]

/-- The count of up to eight entries is a byte. -/
theorem count_holding (few : taken.length ≤ 8) :
    (sprites.holding taken).count.toNat = taken.length := by
  change taken.length % 256 = taken.length
  omega

/-- The slots come to hold the first eight of the sprites that they hold already and those that
follow, and a ninth is noticed. -/
theorem indexedFill_eq (line : Int16) (height : Nat) (entries : List OamEntry)
    (few : taken.length ≤ 8) :
    indexedFill line height entries (sprites.holding taken)
      = some (sprites.holding
          ((taken ++ entries.filter (·.covers line height)).take spritesPerLine),
        decide (spritesPerLine
          < (taken ++ entries.filter (·.covers line height)).length)) := by
  induction entries generalizing taken with
  | nil =>
    have whole : taken.take spritesPerLine = taken := List.take_of_length_le few
    have fit : ¬spritesPerLine < taken.length := Nat.not_lt.2 few
    rw [indexedFill, List.filter_nil, List.append_nil, whole, decide_eq_false fit]
  | cons entry rest ih =>
    rw [indexedFill, count_holding sprites few]
    by_cases drawn : entry.covers line height = true
    · have found : (entry :: rest).filter (·.covers line height)
          = entry :: rest.filter (·.covers line height) := List.filter_cons_of_pos drawn
      rw [if_pos drawn, found]
      by_cases full : taken.length = spritesPerLine
      · have first : (taken ++ entry :: rest.filter (·.covers line height)).take spritesPerLine
            = taken := by
          rw [← full, List.take_left]
        rw [if_pos full, first, decide_eq_true]
        rw [List.length_append, List.length_cons, full]
        omega
      · have room : taken.length < 8 := Nat.lt_of_le_of_ne few full
        have more : (taken ++ [entry]).length ≤ 8 := by
          rw [List.length_append]
          exact room
        have next := ih more
        rw [List.append_assoc, List.singleton_append] at next
        have counted : (sprites.holding taken).count + 1
            = (sprites.holding (taken ++ [entry])).count := by
          apply UInt8.toNat_inj.1
          rw [UInt8.toNat_add, count_holding sprites few, count_holding sprites more,
            List.length_append]
          change (taken.length + 1) % 256 = taken.length + 1
          omega
        rw [if_neg full, put?_holding sprites entry room, counted]
        exact next
    · have passed : (entry :: rest).filter (·.covers line height)
          = rest.filter (·.covers line height) := List.filter_cons_of_neg drawn
      rw [if_neg drawn, passed]
      exact ih few

end Fill

end Sprites

/-- Select the sprites of the next line. -/
def indexedSelectSprites (ppu : Ppu) : Option Ppu := do
  let height := ppu.control.spriteHeight
  let entries ← OamEntry.indexedAll ppu.oam
  let zero ← OamEntry.indexed ppu.oam 0
  let cleared := ppu.sprites.cleared (zero.covers ppu.line height)
  let (sprites, overflow) ← Sprites.indexedFill ppu.line height entries cleared
  return { ppu with
    sprites
    status := { ppu.status with overflow := ppu.status.overflow || overflow } }

/-- Sprites are stored in slots that there are, and the ninth one ends the selection. -/
theorem indexedSelectSprites_eq (ppu : Ppu) :
    ppu.indexedSelectSprites = some ppu.selectSprites := by
  have few : ([] : List OamEntry).length ≤ 8 := Nat.zero_le 8
  simp only [indexedSelectSprites, OamEntry.indexedAll_eq, Option.bind_eq_bind, Option.bind_some,
    OamEntry.indexed_eq _ (show 0 < 64 by decide)]
  rw [Sprites.cleared_eq, Sprites.indexedFill_eq _ _ _ _ few]
  rfl

/-- One plane of the pattern of a slot. -/
def indexedSpritePlane (ppu : Ppu) (slot : Option Cartridge) (entry : OamEntry)
    (offset : UInt16) : Option UInt8 := do
  let plane ← ppu.indexedReadVideo slot (entry.patternAddress ppu.control ppu.line + offset)
  return if entry.flipsHorizontally then reverseBits plane else plane

/-- Fetch the pattern of one of the selected sprites. -/
def indexedFetchSprite (slot : Option Cartridge) (ppu : Ppu) (index : Nat) : Option Ppu := do
  let entry ← ppu.sprites.slots[index]?
  let low ← ppu.indexedSpritePlane slot entry 0
  let high ← ppu.indexedSpritePlane slot entry 8
  let patternLow ← put? ppu.sprites.patternLow index low
  let patternHigh ← put? ppu.sprites.patternHigh index high
  return { ppu with sprites := { ppu.sprites with patternLow, patternHigh } }

/-- Fetch the patterns of the selected sprites. -/
def indexedFetchSprites (ppu : Ppu) (slot : Option Cartridge) : Option Ppu :=
  (List.range ppu.sprites.active).foldlM (indexedFetchSprite slot) ppu

/-- A plane of the patterns of all slots, in use or not. -/
def fetchedPlane (ppu : Ppu) (slot : Option Cartridge) (offset : UInt16) : Vector UInt8 8 :=
  ppu.sprites.slots.map fun entry => ppu.spritePlane slot entry offset

/-- The chip in the middle of fetching: the slots before a bound have their patterns. -/
def fetchedBefore (ppu : Ppu) (slot : Option Cartridge) (bound : Nat) : Ppu :=
  { ppu with
    sprites := { ppu.sprites with
      patternLow := spliced bound (ppu.fetchedPlane slot 0) ppu.sprites.patternLow
      patternHigh := spliced bound (ppu.fetchedPlane slot 8) ppu.sprites.patternHigh } }

section Patterns

variable (ppu : Ppu) (slot : Option Cartridge)

/-- Before the first turn no pattern has been fetched. -/
theorem fetchedBefore_zero : ppu.fetchedBefore slot 0 = ppu := by
  simp only [fetchedBefore, spliced_zero]

/-- After all turns the patterns of the slots in use are there. -/
theorem fetchedBefore_active :
    ppu.fetchedBefore slot ppu.sprites.active = ppu.fetchSprites slot := by
  have row (offset : UInt16) (index : Fin 8) : (ppu.fetchedPlane slot offset).get index
      = ppu.spritePlane slot (ppu.sprites.slots.get index) offset :=
    Vector.getElem_map _ index.isLt
  simp only [fetchedBefore, fetchSprites, spliced, row, Sprites.uses_eq, decide_eq_true_eq]

/-- A plane of a pattern is fetched from a byte that there is. -/
theorem indexedSpritePlane_eq (entry : OamEntry) (offset : UInt16) :
    ppu.indexedSpritePlane slot entry offset = some (ppu.spritePlane slot entry offset) := by
  rw [indexedSpritePlane, indexedReadVideo_eq]
  rfl

/-- A turn fetches the pattern of the slot of its index. -/
theorem indexedFetchSprite_eq {index : Nat} (inside : index < 8) :
    indexedFetchSprite slot (ppu.fetchedBefore slot index) index
      = some (ppu.fetchedBefore slot (index + 1)) := by
  -- a pattern is read the same before and after others have been stored
  have plane (offset : UInt16) :
      (ppu.fetchedBefore slot index).spritePlane slot ppu.sprites.slots[index] offset
        = (ppu.fetchedPlane slot offset)[index] := by
    rw [fetchedPlane, Vector.getElem_map]
    rfl
  have entry : (ppu.fetchedBefore slot index).sprites.slots[index]?
      = some ppu.sprites.slots[index] := Vector.getElem?_eq_getElem inside
  rw [indexedFetchSprite, entry]
  simp only [Option.bind_eq_bind, Option.bind_some, indexedSpritePlane_eq, plane]
  simp only [fetchedBefore, put?_spliced _ _ inside, Option.bind_some]
  rfl

/-- The loop over the slots in use fetches all their patterns. -/
theorem indexedFetchSprites_eq : ppu.indexedFetchSprites slot = some (ppu.fetchSprites slot) := by
  have turns := foldlM_range_eq fun index (inside : index < ppu.sprites.active) =>
    ppu.indexedFetchSprite_eq slot (Nat.lt_of_lt_of_le inside ppu.sprites.active_le)
  rw [fetchedBefore_zero, fetchedBefore_active] at turns
  exact turns

end Patterns

end Nes.Ppu
