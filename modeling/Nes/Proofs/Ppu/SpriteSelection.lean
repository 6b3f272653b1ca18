import Nes.Proofs.Ppu.CheckedSprites
import Nes.Proofs.Ppu.IndexedSprites

/-!
# The selection of sprites as a scan

The sprites of a line are selected by going over the 64 entries of sprite memory in order: an entry
that is drawn goes into the next free slot, the ninth one ends the scan and is noticed as an
overflow, and the very first entry is noticed where it is taken. The scan is given here turn by turn
with checked numbers and slots (`Sprites.scan`). In its middle the pipeline is determined by the
entries that have been taken (`Sprites.taking`), so it ends with the first eight that are drawn, and
what the selection leaves is known from the list of all that are (`selectSprites_of_drawn`).
-/
namespace Nes.Ppu

namespace Sprites

/-- Go over entries of sprite memory. The ninth that is drawn ends it, and is noticed. -/
def scan (oam : Memory 256) (line : Int16) (height : Nat) :
    List Nat → Sprites → Option (Sprites × Bool)
  | [], sprites => some (sprites, false)
  | index :: rest, sprites => do
    let entry ← OamEntry.indexed oam index
    if ← entry.checkedCovers line height then
      if sprites.count.toNat = spritesPerLine then return (sprites, true)
      let zeroSelected := sprites.zeroSelected || index == 0
      let slots ← put? sprites.slots sprites.count.toNat entry
      let count ← add? sprites.count 1
      scan oam line height rest { sprites with slots, count, zeroSelected }
    else scan oam line height rest sprites

/-- Those of some entries that are drawn on the line after `line`, by their indexes. -/
def drawnAmong (oam : Memory 256) (line : Int16) (height : Nat) (indexes : List Nat) : List Nat :=
  indexes.filter fun index => (OamEntry.ofMemory oam index).covers line height

/-- The pipeline in the middle of a scan that has taken the entries of the given indexes. -/
def taking (sprites : Sprites) (oam : Memory 256) (taken : List Nat) : Sprites :=
  (sprites.cleared (decide (0 ∈ taken))).holding (taken.map (OamEntry.ofMemory oam))

section Scan

variable (sprites : Sprites) (oam : Memory 256) {line : Int16} {height : Nat} {taken : List Nat}

/-- Up to eight sprites that have been taken are counted. -/
theorem count_taking (few : taken.length ≤ 8) :
    (sprites.taking oam taken).count.toNat = taken.length := by
  have length : (taken.map (OamEntry.ofMemory oam)).length = taken.length := List.length_map _
  rw [taking, count_holding _ (length.trans_le few), length]

/-- The slots hold the entries that have been taken. -/
theorem slots_taking (slot : Fin 8) :
    (sprites.taking oam taken).slots.get slot
      = (taken[slot.val]?.map (OamEntry.ofMemory oam)).getD OamEntry.empty := by
  rw [← List.getElem?_map]
  exact Vector.getElem_ofFn slot.isLt

/-- A turn of the scan at an entry that is not drawn goes on. -/
theorem scan_of_passed (onGrid : -1 ≤ line.toInt ∧ line.toInt ≤ 260) {index : Nat}
    (inside : index < 64) (passed : ¬(OamEntry.ofMemory oam index).covers line height = true)
    (rest : List Nat) :
    scan oam line height (index :: rest) sprites = scan oam line height rest sprites := by
  simp only [scan, OamEntry.indexed_eq oam inside, OamEntry.checkedCovers_eq onGrid,
    Option.bind_eq_bind, Option.bind_some, if_neg passed]

/-- One that is drawn when eight have been taken ends the scan. -/
theorem scan_of_full (onGrid : -1 ≤ line.toInt ∧ line.toInt ≤ 260) {index : Nat}
    (inside : index < 64) (drawn : (OamEntry.ofMemory oam index).covers line height = true)
    (full : taken.length = spritesPerLine) (rest : List Nat) :
    scan oam line height (index :: rest) (sprites.taking oam taken)
      = some (sprites.taking oam taken, true) := by
  have count : (sprites.taking oam taken).count.toNat = spritesPerLine :=
    (count_taking sprites oam full.le).trans full
  simp only [scan, OamEntry.indexed_eq oam inside, OamEntry.checkedCovers_eq onGrid,
    Option.bind_eq_bind, Option.bind_some, if_pos drawn, if_pos count]
  rfl

/-- Before that it is taken. -/
theorem scan_of_room (onGrid : -1 ≤ line.toInt ∧ line.toInt ≤ 260) {index : Nat}
    (inside : index < 64) (drawn : (OamEntry.ofMemory oam index).covers line height = true)
    (room : taken.length < 8) (rest : List Nat) :
    scan oam line height (index :: rest) (sprites.taking oam taken)
      = scan oam line height rest (sprites.taking oam (taken ++ [index])) := by
  have count : (sprites.taking oam taken).count.toNat = taken.length :=
    count_taking sprites oam room.le
  have notFull : ¬taken.length = spritesPerLine := room.ne
  have more : (taken ++ [index]).length ≤ 8 := by
    rw [List.length_append]
    exact room
  have length : (taken.map (OamEntry.ofMemory oam)).length = taken.length := List.length_map _
  have next : put? (sprites.taking oam taken).slots taken.length (OamEntry.ofMemory oam index)
      = some (sprites.taking oam (taken ++ [index])).slots := by
    have put := put?_holding (sprites.cleared (decide (0 ∈ taken))) (OamEntry.ofMemory oam index)
      (length.trans_lt room)
    rw [length] at put
    rw [taking, taking, List.map_append]
    exact put
  have counted : add? (sprites.taking oam taken).count 1
      = some (sprites.taking oam (taken ++ [index])).count := by
    have fits : (sprites.taking oam taken).count.toNat + (1 : UInt8).toNat < 256 := by
      rw [count]
      change taken.length + 1 < 256
      omega
    rw [add?_byte fits]
    congr 1
    apply UInt8.toNat_inj.1
    rw [UInt8.toNat_add, count, count_taking sprites oam more, List.length_append]
    exact Nat.mod_eq_of_lt (by change taken.length + 1 < 256; omega)
  have noticed : (decide (0 ∈ taken) || index == 0) = decide (0 ∈ taken ++ [index]) := by
    rw [Bool.eq_iff_iff, Bool.or_eq_true, decide_eq_true_iff, decide_eq_true_iff, List.mem_append,
      List.mem_singleton, beq_iff_eq]
    exact or_congr_right eq_comm
  simp only [scan, OamEntry.indexed_eq oam inside, OamEntry.checkedCovers_eq onGrid,
    Option.bind_eq_bind, Option.bind_some, if_pos drawn, count, if_neg notFull, next, counted]
  exact congrArg (fun zeroSelected => scan oam line height rest
    { sprites.taking oam (taken ++ [index]) with zeroSelected }) noticed

/-- A scan takes the first eight that are drawn, and notices a ninth. -/
theorem scan_eq (onGrid : -1 ≤ line.toInt ∧ line.toInt ≤ 260) (indexes : List Nat)
    (inside : ∀ index ∈ indexes, index < 64) (few : taken.length ≤ 8) :
    scan oam line height indexes (sprites.taking oam taken)
      = some (sprites.taking oam
          ((taken ++ drawnAmong oam line height indexes).take spritesPerLine),
        decide (spritesPerLine < (taken ++ drawnAmong oam line height indexes).length)) := by
  induction indexes generalizing taken with
  | nil =>
    have whole : taken.take spritesPerLine = taken := List.take_of_length_le few
    have fit : ¬spritesPerLine < taken.length := Nat.not_lt.2 few
    rw [scan, drawnAmong, List.filter_nil, List.append_nil, whole, decide_eq_false fit]
  | cons index rest ih =>
    have first : index < 64 := inside index List.mem_cons_self
    have others : ∀ index ∈ rest, index < 64 :=
      fun _ among => inside _ (List.mem_cons_of_mem _ among)
    by_cases drawn : (OamEntry.ofMemory oam index).covers line height = true
    · have found : drawnAmong oam line height (index :: rest)
          = index :: drawnAmong oam line height rest := List.filter_cons_of_pos drawn
      rw [found]
      by_cases full : taken.length = spritesPerLine
      · have eight : (taken ++ index :: drawnAmong oam line height rest).take spritesPerLine
            = taken := by
          rw [← full, List.take_left]
        have ninth : spritesPerLine
            < (taken ++ index :: drawnAmong oam line height rest).length := by
          rw [List.length_append, List.length_cons, full]
          exact Nat.lt_add_of_pos_right (Nat.succ_pos _)
        rw [scan_of_full sprites oam onGrid first drawn full, eight, decide_eq_true ninth]
      · have room : taken.length < 8 := Nat.lt_of_le_of_ne few full
        have more : (taken ++ [index]).length ≤ 8 := by
          rw [List.length_append]
          exact room
        have next := ih others more
        rw [List.append_assoc, List.singleton_append] at next
        rw [scan_of_room sprites oam onGrid first drawn room]
        exact next
    · have passed : drawnAmong oam line height (index :: rest) = drawnAmong oam line height rest :=
        List.filter_cons_of_neg drawn
      rw [passed, scan_of_passed _ oam onGrid first drawn]
      exact ih others few

end Scan

end Sprites

/-- Select the sprites of the next line by a scan of sprite memory. -/
def scanSprites (ppu : Ppu) : Option Ppu := do
  let (sprites, overflow) ← Sprites.scan ppu.oam ppu.line ppu.control.spriteHeight (List.range 64)
    (ppu.sprites.cleared false)
  let ppu := { ppu with sprites }
  return if overflow then { ppu with status := { ppu.status with overflow := true } } else ppu

namespace Sprites

section Selection

variable (oam : Memory 256) (line : Int16) (height : Nat)

/-- The entries that are drawn, by their indexes. -/
theorem onLine_eq :
    onLine oam line height
      = (drawnAmong oam line height (List.range 64)).map (OamEntry.ofMemory oam) :=
  List.filter_map

/-- As many sprites are on a line as there are indexes of them. -/
theorem length_onLine :
    (onLine oam line height).length = (drawnAmong oam line height (List.range 64)).length := by
  rw [onLine_eq, List.length_map]

/-- Sprite zero is among the drawn ones just where it is on the line. -/
theorem zero_mem_drawnAmong :
    0 ∈ drawnAmong oam line height (List.range 64)
      ↔ (OamEntry.ofMemory oam 0).covers line height = true := by
  rw [drawnAmong, List.mem_filter]
  exact and_iff_right (List.mem_range.2 (by decide))

/-- Where the first entry is drawn, it is among the first eight. -/
theorem zero_mem_take :
    0 ∈ (drawnAmong oam line height (List.range 64)).take spritesPerLine
      ↔ 0 ∈ drawnAmong oam line height (List.range 64) := by
  refine ⟨List.mem_of_mem_take, fun drawn => ?_⟩
  have head : List.range 64 = 0 :: (List.range 63).map Nat.succ := List.range_succ_eq_map
  have first : drawnAmong oam line height (List.range 64)
      = 0 :: drawnAmong oam line height ((List.range 63).map Nat.succ) := by
    rw [head]
    exact List.filter_cons_of_pos ((zero_mem_drawnAmong oam line height).1 drawn)
  rw [first]
  exact List.mem_cons_self

/-- The selected sprites are the first eight that are drawn. -/
theorem select_eq (sprites : Sprites) :
    sprites.select oam line height
      = sprites.taking oam
        ((drawnAmong oam line height (List.range 64)).take spritesPerLine) := by
  have zero : decide (0 ∈ (drawnAmong oam line height (List.range 64)).take spritesPerLine)
      = (OamEntry.ofMemory oam 0).covers line height := by
    rw [Bool.eq_iff_iff, decide_eq_true_iff, zero_mem_take, zero_mem_drawnAmong]
  rw [taking, zero, List.map_take, ← onLine_eq]
  rfl

end Selection

end Sprites

/-- The scan gives what the selection says. -/
theorem scanSprites_eq (ppu : Ppu) (onGrid : -1 ≤ ppu.line.toInt ∧ ppu.line.toInt ≤ 260) :
    ppu.scanSprites = some ppu.selectSprites := by
  have start : ppu.sprites.cleared false = ppu.sprites.taking ppu.oam [] :=
    Sprites.cleared_eq ppu.sprites false
  have few : ([] : List Nat).length ≤ 8 := Nat.zero_le 8
  have inside : ∀ index ∈ List.range 64, index < 64 := fun _ => List.mem_range.1
  have scanned : Sprites.scan ppu.oam ppu.line ppu.control.spriteHeight (List.range 64)
      (ppu.sprites.taking ppu.oam []) = _ := Sprites.scan_eq ppu.sprites ppu.oam onGrid _ inside few
  rw [List.nil_append, ← Sprites.select_eq, ← Sprites.length_onLine] at scanned
  have noticed : decide (spritesPerLine
      < (Sprites.onLine ppu.oam ppu.line ppu.control.spriteHeight).length)
        = Sprites.overflows ppu.oam ppu.line ppu.control.spriteHeight := rfl
  rw [scanSprites, start, scanned, Option.bind_eq_bind, Option.bind_some, noticed, selectSprites]
  cases Sprites.overflows ppu.oam ppu.line ppu.control.spriteHeight
  · rw [Bool.or_false]
    rfl
  · rw [Bool.or_true]
    rfl

/-- Whatever the pipeline held, the selection takes the first eight of the entries that are drawn on
the next line, in order and byte for byte, and empties the other slots and all patterns. It notices
whether the first entry of all is drawn, and a ninth one on the line. Nothing else changes. The scan
of sprite memory comes to that without leaving a slot or a number type. -/
theorem selectSprites_of_drawn (ppu : Ppu) (onPicture : 0 ≤ ppu.line.toInt ∧ ppu.line.toInt ≤ 239) :
    let height : Int := if ppu.control.tallSprites then 16 else 8
    let drawn := (List.range 64).filter fun index =>
      let row := ppu.line.toInt - (ppu.oam.read (4 * index)).toNat
      0 ≤ row ∧ row < height
    let next := ppu.selectSprites
    ppu.scanSprites = some next ∧
    next.sprites.count.toNat = min 8 drawn.length ∧
    (∀ (slot : Fin 8) (used : slot.val < drawn.length),
      next.sprites.slots[slot] = OamEntry.ofMemory ppu.oam drawn[slot.val]) ∧
    (∀ slot : Fin 8, drawn.length ≤ slot.val → next.sprites.slots[slot] = OamEntry.empty) ∧
    next.sprites.patternLow = Vector.replicate 8 0 ∧
    next.sprites.patternHigh = Vector.replicate 8 0 ∧
    (next.sprites.zeroSelected = true ↔ 0 ∈ drawn) ∧
    (next.status.overflow = true ↔ ppu.status.overflow = true ∨ 9 ≤ drawn.length) ∧
    next = { ppu with
      sprites := { next.sprites with zeroShown := ppu.sprites.zeroShown }
      status := { ppu.status with overflow := next.status.overflow } } := by
  intro height drawn next
  have among : drawn
      = Sprites.drawnAmong ppu.oam ppu.line ppu.control.spriteHeight (List.range 64) := by
    apply List.filter_congr
    intro index _
    have same : ((ppu.control.spriteHeight : Nat) : Int) = height := apply_ite ..
    rw [OamEntry.covers, same]
    exact Bool.decide_and ..
  have selected : next.sprites = ppu.sprites.taking ppu.oam (drawn.take spritesPerLine) := by
    rw [among]
    exact Sprites.select_eq ppu.oam ppu.line ppu.control.spriteHeight ppu.sprites
  have few : (drawn.take spritesPerLine).length ≤ 8 := List.length_take_le _ _
  have early (slot : Fin 8) : (drawn.take spritesPerLine)[slot.val]? = drawn[slot.val]? :=
    List.getElem?_take_of_lt slot.isLt
  refine ⟨ppu.scanSprites_eq ⟨by omega, by omega⟩, ?_, ?_, ?_, rfl, rfl, ?_, ?_, rfl⟩
  · rw [selected, Sprites.count_taking _ _ few, List.length_take]
    rfl
  · intro slot used
    rw [selected]
    refine (Sprites.slots_taking _ _ slot).trans ?_
    rw [early slot, List.getElem?_eq_getElem used]
    rfl
  · intro slot free
    rw [selected]
    refine (Sprites.slots_taking _ _ slot).trans ?_
    rw [early slot, List.getElem?_eq_none free]
    rfl
  · rw [among, Sprites.zero_mem_drawnAmong]
    rfl
  · rw [among, ← Sprites.length_onLine]
    change (ppu.status.overflow || decide _) = true ↔ _
    rw [Bool.or_eq_true, decide_eq_true_iff]
    rfl

/-- With the first entry far below the line and all others on it, the slots hold entries 1 to 8, and
the ninth is noticed. -/
theorem selectSprites_of_drawn_withoutFirst :
    let ppu := { powerOn with line := 5, oam := powerOn.oam.write 0 100 }
    ppu.selectSprites.sprites.count.toNat = 8 ∧
      ppu.selectSprites.sprites.slots[(7 : Fin 8)] = OamEntry.ofMemory ppu.oam 8 ∧
      ppu.selectSprites.sprites.zeroSelected = false ∧
      ppu.selectSprites.status.overflow = true := by
  intro ppu
  have drawn : ((List.range 64).filter fun index =>
      let row := ppu.line.toInt - (ppu.oam.read (4 * index)).toNat
      0 ≤ row ∧ row < (if ppu.control.tallSprites then 16 else 8 : Int))
        = (List.range 63).map Nat.succ := by
    decide +kernel
  obtain ⟨-, count, slots, -, -, -, zero, overflow, -⟩ :=
    selectSprites_of_drawn ppu (by decide)
  simp only [drawn] at count slots zero overflow
  refine ⟨count, slots 7 (by decide), ?_, overflow.2 (.inr (by decide))⟩
  exact Bool.eq_false_iff.2 (zero.not.2 (by decide))

end Nes.Ppu
