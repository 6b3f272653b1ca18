import Nes.Proofs.Ppu.Grid
import Nes.Proofs.Ppu.Registers
import Nes.Proofs.Ppu.ScrollFields

/-!
# Bounds on the picture chip

The chip stands on the grid, its scroll words have fifteen bits, the pixel at the left edge lies in
a tile, and no more sprites are selected than there are slots (`Ppu.Bounded`). Registers are written
so that these bounds hold whatever the byte, and every phase of a dot keeps them.
-/
namespace Nes.Ppu

namespace Scroll

/-- A scroll word has fifteen bits. -/
def InRange (scroll : Scroll) : Prop := scroll.raw.toNat < 0x8000

instance (scroll : Scroll) : Decidable scroll.InRange := Nat.decLt _ _

variable {scroll : Scroll} (inRange : scroll.InRange)

section

include inRange

/-- A small number put in the place of some bits leaves fifteen bits. -/
theorem InRange.put {mask field : UInt16} (small : field.toNat < 0x8000) :
    InRange ⟨scroll.raw &&& mask ||| field⟩ := by
  have kept : scroll.raw.toNat &&& mask.toNat < 2 ^ 15 := Nat.lt_of_le_of_lt Nat.and_le_left inRange
  change (scroll.raw &&& mask ||| field).toNat < 2 ^ 15
  rw [UInt16.toNat_or, UInt16.toNat_and]
  exact Nat.or_lt_two_pow kept small

/-- A tile column is cut to its five bits. -/
theorem InRange.setCoarseX (value : UInt16) : (scroll.setCoarseX value).InRange := by
  apply inRange.put
  rw [UInt16.toNat_and]
  exact Nat.lt_of_le_of_lt Nat.and_le_right (by decide)

/-- A tile line is cut to its five bits. -/
theorem InRange.setCoarseY (value : UInt16) : (scroll.setCoarseY value).InRange := by
  apply inRange.put
  rw [toNat_and_shiftLeft value 0x001F 5 5 5 rfl rfl (by decide)]
  omega

/-- The horizontal nametable bit is cut to one bit. -/
theorem InRange.setNametableX (value : UInt16) : (scroll.setNametableX value).InRange := by
  apply inRange.put
  rw [toNat_and_shiftLeft value 0x0001 10 10 1 rfl rfl (by decide)]
  omega

/-- The vertical nametable bit is cut to one bit. -/
theorem InRange.setNametableY (value : UInt16) : (scroll.setNametableY value).InRange := by
  apply inRange.put
  rw [toNat_and_shiftLeft value 0x0001 11 11 1 rfl rfl (by decide)]
  omega

/-- A line within a tile is cut to its three bits. -/
theorem InRange.setFineY (value : UInt16) : (scroll.setFineY value).InRange := by
  apply inRange.put
  rw [toNat_and_shiftLeft value 0x0007 12 12 3 rfl rfl (by decide)]
  omega

/-- A step to the right leaves fifteen bits. -/
theorem InRange.nextColumn : scroll.nextColumn.InRange := by
  rw [Scroll.nextColumn]
  split
  · exact (inRange.setCoarseX 0).setNametableX _
  · exact inRange.setCoarseX _

/-- A step down leaves fifteen bits. -/
theorem InRange.nextLine : scroll.nextLine.InRange := by
  have top := inRange.setFineY 0
  rw [Scroll.nextLine]
  split
  · exact inRange.setFineY _
  dsimp only
  split
  · exact (top.setCoarseY 0).setNametableY _
  split
  · exact top.setCoarseY 0
  · exact top.setCoarseY _

/-- The horizontal fields of another word leave fifteen bits. -/
theorem InRange.copyHorizontal (source : Scroll) : (scroll.copyHorizontal source).InRange :=
  (inRange.setNametableX _).setCoarseX _

/-- The vertical fields of another word leave fifteen bits. -/
theorem InRange.copyVertical (source : Scroll) : (scroll.copyVertical source).InRange :=
  ((inRange.setFineY _).setNametableY _).setCoarseY _

/-- The low byte is any byte. -/
theorem InRange.withLow (low : UInt8) : InRange ⟨wordOf low (highByte scroll.raw)⟩ := by
  have bound : scroll.raw.toNat < 0x8000 := inRange
  have small := low.toNat_lt
  rw [InRange, toNat_wordOf, toNat_highByte]
  omega

end

/-- The high byte of an address is cut. -/
theorem inRange_withHigh (scroll : Scroll) (value : UInt8) :
    InRange ⟨wordOf (lowByte scroll.raw) (value &&& 0x3F)⟩ := by
  have high : value.toNat &&& 0x3F ≤ 0x3F := Nat.and_le_right
  have low := (lowByte scroll.raw).toNat_lt
  rw [InRange, toNat_wordOf, UInt8.toNat_and]
  change 256 * (value.toNat &&& 0x3F) + _ < _
  omega

/-- The address goes round at fifteen bits. -/
theorem inRange_advance (scroll : Scroll) (step : UInt16) : (scroll.advance step).InRange := by
  rw [InRange, advance, UInt16.toNat_and]
  exact Nat.lt_of_le_of_lt Nat.and_le_right (by decide)

end Scroll

/-- A chip within its bounds. -/
structure Bounded (ppu : Ppu) : Prop where
  /-- Lines go from -1 to 260. -/
  line : -1 ≤ ppu.line.toInt ∧ ppu.line.toInt ≤ 260
  /-- Dots go from 0 to 340. -/
  dot : 0 ≤ ppu.dot.toInt ∧ ppu.dot.toInt ≤ 340
  /-- The pixel at the left edge lies in a tile. -/
  fineX : ppu.fineX < 8
  /-- The scroll word in use has fifteen bits. -/
  scroll : ppu.scroll.InRange
  /-- So has the scroll word being written. -/
  nextScroll : ppu.nextScroll.InRange
  /-- No more sprites are selected than there are slots. -/
  count : ppu.sprites.count.toNat ≤ spritesPerLine

/-- What the bounds are about. -/
structure Gauges where
  /-- The place on the grid. -/
  grid : Int16 × Int16
  /-- The pixel at the left edge. -/
  fineX : UInt8
  /-- The scroll words. -/
  scrolls : Scroll × Scroll
  /-- How many sprites are selected. -/
  count : UInt8

/-- What the bounds are about. -/
def gauges (ppu : Ppu) : Gauges :=
  ⟨(ppu.line, ppu.dot), ppu.fineX, (ppu.scroll, ppu.nextScroll), ppu.sprites.count⟩

/-- A chip with the same gauges is within its bounds as well. -/
theorem Bounded.congr {ppu other : Ppu} (bounded : Bounded ppu)
    (same : other.gauges = ppu.gauges) : Bounded other := by
  have line : other.line = ppu.line := congrArg (fun gauges => gauges.grid.1) same
  have dot : other.dot = ppu.dot := congrArg (fun gauges => gauges.grid.2) same
  have fineX : other.fineX = ppu.fineX := congrArg Gauges.fineX same
  have scroll : other.scroll = ppu.scroll := congrArg (fun gauges => gauges.scrolls.1) same
  have nextScroll : other.nextScroll = ppu.nextScroll :=
    congrArg (fun gauges => gauges.scrolls.2) same
  have count : other.sprites.count = ppu.sprites.count := congrArg Gauges.count same
  exact ⟨line ▸ bounded.line, dot ▸ bounded.dot, fineX ▸ bounded.fineX, scroll ▸ bounded.scroll,
    nextScroll ▸ bounded.nextScroll, count ▸ bounded.count⟩

/-- The picture chip at power-on is within its bounds. -/
theorem bounded_powerOn : Bounded powerOn := by
  refine ⟨?_, ?_, ?_, ?_, ?_, ?_⟩ <;> decide

/-- A reset brings the picture chip within its bounds. -/
theorem bounded_reset (ppu : Ppu) : Bounded ppu.reset := bounded_powerOn.congr rfl

section Registers

variable {κ : Type} [CartridgeSide κ] {ppu : Ppu} (bounded : Bounded ppu) (slot : κ)

include bounded

/-- Any scroll word of fifteen bits may take the place of the one in use. -/
theorem Bounded.withScroll {scroll : Scroll} (inRange : scroll.InRange) :
    Bounded { ppu with scroll } :=
  ⟨bounded.line, bounded.dot, bounded.fineX, inRange, bounded.nextScroll, bounded.count⟩

/-- Any scroll word of fifteen bits may be the one to come. -/
theorem Bounded.withNextScroll {nextScroll : Scroll} (inRange : nextScroll.InRange) :
    Bounded { ppu with nextScroll } :=
  ⟨bounded.line, bounded.dot, bounded.fineX, bounded.scroll, inRange, bounded.count⟩

/-- An access to video memory goes on within the bounds. -/
theorem Bounded.advanceAddress : Bounded ppu.advanceAddress :=
  bounded.withScroll (Scroll.inRange_advance _ _)

/-- A read of a register at most moves the address on. -/
theorem Bounded.readRegister (address : UInt16) :
    Bounded (ppu.readRegister slot address).2 := by
  rw [Ppu.readRegister]
  split
  case h_3 =>
    have fresh : Bounded { ppu with
        readBuffer := ppu.readVideo slot (ppu.scroll.raw &&& 0x3FFF) } := bounded.congr rfl
    exact fresh.advanceAddress
  all_goals exact bounded.congr rfl

/-- A write of video memory reaches nothing that has bounds. -/
theorem Bounded.writeVideo (address : UInt16) (value : UInt8) :
    Bounded (ppu.writeVideo slot address value).1 := by
  simp only [Ppu.writeVideo]
  split
  · exact bounded
  split
  · exact bounded.congr rfl
  split <;> exact bounded.congr rfl

/-- The control register puts two bits into the scroll word to come. -/
theorem Bounded.writeControl (value : UInt8) : Bounded (ppu.writeControl value) :=
  (bounded.withNextScroll ((bounded.nextScroll.setNametableX _).setNametableY _)).congr rfl

/-- The scroll register puts a byte into the scroll word to come, and three bits of the first one
into fine X. -/
theorem Bounded.writeScroll (value : UInt8) : Bounded (ppu.writeScroll value) := by
  have fine : value &&& 0x07 < 8 := by
    rw [UInt8.lt_iff_toNat_lt, UInt8.toNat_and]
    exact Nat.lt_of_le_of_lt Nat.and_le_right (by decide)
  rw [Ppu.writeScroll]
  dsimp only
  split
  · exact (bounded.withNextScroll ((bounded.nextScroll.setFineY _).setCoarseY _)).congr rfl
  · exact ⟨bounded.line, bounded.dot, fine, bounded.scroll, bounded.nextScroll.setCoarseX _,
      bounded.count⟩

/-- The address register puts a byte into the scroll word to come, cut to fifteen bits. -/
theorem Bounded.writeAddress (value : UInt8) : Bounded (ppu.writeAddress value) := by
  rw [Ppu.writeAddress]
  split
  · have whole := bounded.nextScroll.withLow value
    exact ((bounded.withNextScroll whole).withScroll whole).congr rfl
  · exact (bounded.withNextScroll (Scroll.inRange_withHigh _ value)).congr rfl

/-- Every byte can be written to every register. -/
theorem Bounded.writeRegister (address : UInt16) (value : UInt8) :
    Bounded (ppu.writeRegister slot address value).1 := by
  rw [Ppu.writeRegister]
  split
  case h_1 => exact bounded.writeControl value
  case h_6 => exact bounded.writeScroll value
  case h_7 => exact bounded.writeAddress value
  case h_8 =>
    have stored := bounded.writeVideo slot ppu.scroll.raw value
    exact stored.advanceAddress
  all_goals exact bounded.congr rfl

end Registers

/-- Deciding between the two sides of a dot changes no gauge. -/
theorem gauges_compose : Keeps gauges (·.compose.2) := by
  have foreground : Keeps gauges (·.spriteForeground.2) := by
    intro ppu
    dsimp only [spriteForeground]
    split
    · dsimp only [Sprites.foreground]
      split <;> rfl
    · rfl
  intro ppu
  dsimp only
  rw [DotPhase.compose_snd]
  split
  · exact foreground ppu
  · exact foreground ppu

/-- A phase of a dot keeps a chip within its bounds. -/
def KeepsBounds (phase : Ppu → Ppu) : Prop := ∀ ppu, Bounded ppu → Bounded (phase ppu)

namespace KeepsBounds

variable {first second phase : Ppu → Ppu}

/-- Phases that keep the bounds keep them one after the other. -/
theorem andThen (left : KeepsBounds first) (right : KeepsBounds second) :
    KeepsBounds fun ppu => second (first ppu) :=
  fun ppu bounded => right _ (left ppu bounded)

/-- A phase that keeps the bounds may be left out. -/
theorem when {condition : Ppu → Prop} [DecidablePred condition] (kept : KeepsBounds phase) :
    KeepsBounds fun ppu => if condition ppu then phase ppu else ppu := by
  intro ppu bounded
  dsimp only
  split
  · exact kept ppu bounded
  · exact bounded

/-- A phase that leaves the gauges alone keeps the bounds. -/
theorem of_gauges (same : Keeps gauges phase) : KeepsBounds phase :=
  fun ppu bounded => bounded.congr (same ppu)

variable {κ : Type} [CartridgeSide κ] (slot : κ)

/-- Leaving out a dot stays within the line. -/
theorem leaveOutDot : KeepsBounds leaveOutDot := by
  have left : KeepsBounds fun ppu => { ppu with dot := 1 } := fun ppu bounded =>
    ⟨bounded.line, show 0 ≤ 1 ∧ 1 ≤ 340 by decide, bounded.fineX, bounded.scroll,
      bounded.nextScroll, bounded.count⟩
  exact left.when

/-- Clearing the flags stays within the bounds. -/
theorem clearFlags : KeepsBounds clearFlags := by
  have cleared : KeepsBounds fun ppu =>
      { ppu with
        status := { ppu.status with vblank := false, overflow := false, zeroHit := false }
        sprites := ppu.sprites.deselect } := fun ppu bounded =>
    ⟨bounded.line, bounded.dot, bounded.fineX, bounded.scroll, bounded.nextScroll, Nat.zero_le _⟩
  exact cleared.when

/-- Loading the background stays within the bounds. -/
theorem loadBackground : KeepsBounds loadBackground := of_gauges fun _ => rfl

/-- Fetching a tile stays within the bounds. -/
theorem fetchTile : KeepsBounds (·.fetchTile slot) := of_gauges fun _ => rfl

/-- Shifting both pipelines stays within the bounds. -/
theorem shiftPipelines : KeepsBounds shiftPipelines := by
  have count (sprites : Sprites) : sprites.shift.count = sprites.count := by
    rw [Sprites.shift]
    split <;> rfl
  have background : Keeps gauges fun ppu =>
      if ppu.mask.showBackground then { ppu with background := ppu.background.shift } else ppu :=
    Keeps.when fun _ => rfl
  have sprites : Keeps gauges fun ppu =>
      if ppu.mask.showSprites && ppu.dotWithin 1 258 then
        { ppu with sprites := ppu.sprites.shift }
      else ppu := by
    refine Keeps.when fun ppu => ?_
    simp only [gauges, count]
  exact of_gauges (background.andThen sprites)

/-- A change of the scroll word has to leave it fifteen bits. -/
theorem moveScroll {change : Ppu → Scroll → Scroll}
    (kept : ∀ ppu {scroll : Scroll}, scroll.InRange → (change ppu scroll).InRange) :
    KeepsBounds fun ppu => ppu.moveScroll (change ppu) := by
  have moved : KeepsBounds fun ppu => { ppu with scroll := change ppu ppu.scroll } :=
    fun ppu bounded => bounded.withScroll (kept ppu bounded.scroll)
  exact moved.when

/-- A step of the background pipeline moves the scroll word by a column at most. -/
theorem fetchBackground : KeepsBounds (·.fetchBackground slot) := by
  have loaded := loadBackground.andThen (fetchTile slot)
  have moved : KeepsBounds fun ppu => ppu.moveScroll Scroll.nextColumn :=
    moveScroll fun _ _ inRange => inRange.nextColumn
  intro ppu bounded
  simp only [Ppu.fetchBackground]
  split
  case h_1 => exact loaded ppu bounded
  case h_5 => exact moved ppu bounded
  all_goals exact bounded.congr rfl

/-- Shifting and fetching keep the bounds together. -/
theorem runPipelines : KeepsBounds (·.runPipelines slot) :=
  (shiftPipelines.andThen (fetchBackground slot)).when

/-- The ends of a line move the scroll word within its fifteen bits. -/
theorem moveToNextLine : KeepsBounds (·.moveToNextLine slot) := by
  have down : KeepsBounds fun ppu =>
      if ppu.dot == 256 then ppu.moveScroll Scroll.nextLine else ppu :=
    (moveScroll fun _ _ inRange => inRange.nextLine).when
  have copied : KeepsBounds fun ppu => ppu.moveScroll (·.copyHorizontal ppu.nextScroll) :=
    moveScroll fun ppu _ inRange => inRange.copyHorizontal ppu.nextScroll
  have left : KeepsBounds fun ppu =>
      if ppu.dot == 257 then ppu.loadBackground.moveScroll (·.copyHorizontal ppu.nextScroll)
      else ppu :=
    (loadBackground.andThen copied).when
  have unused : KeepsBounds fun ppu =>
      if ppu.dot == 338 || ppu.dot == 340 then ppu.fetchTile slot else ppu :=
    (fetchTile slot).when
  have up : KeepsBounds fun ppu =>
      if ppu.line == -1 && ppu.dotWithin 280 305 then
        ppu.moveScroll (·.copyVertical ppu.nextScroll)
      else ppu :=
    (moveScroll fun ppu _ inRange => inRange.copyVertical ppu.nextScroll).when
  exact ((down.andThen left).andThen unused).andThen up

/-- The first eight sprites of a line are at most eight. -/
theorem selectSprites : KeepsBounds selectSprites := by
  intro ppu bounded
  have selected : ((Sprites.onLine ppu.oam ppu.line ppu.control.spriteHeight).take
      spritesPerLine).length ≤ 8 := List.length_take_le _ _
  refine ⟨bounded.line, bounded.dot, bounded.fineX, bounded.scroll, bounded.nextScroll, ?_⟩
  exact Nat.le_trans (Nat.mod_le _ _) selected

/-- No more sprites are selected or fetched than there are slots. -/
theorem runSprites : KeepsBounds (·.runSprites slot) := by
  have selected : KeepsBounds fun ppu =>
      if ppu.dot == 257 && 0 ≤ ppu.line then ppu.selectSprites else ppu :=
    selectSprites.when
  have planes : KeepsBounds (·.fetchSprites slot) := of_gauges fun _ => rfl
  have fetched : KeepsBounds fun ppu => if ppu.dot == 340 then ppu.fetchSprites slot else ppu :=
    planes.when
  exact selected.andThen fetched

/-- The work of a dot keeps the bounds. -/
theorem renderDot : KeepsBounds (·.renderDot slot) := by
  have cleared := leaveOutDot.andThen clearFlags
  have fetched := cleared.andThen (runPipelines slot)
  have moved := fetched.andThen (moveToNextLine slot)
  have ended := moved.andThen (runSprites slot)
  exact ended

/-- The chip that decides on the pixel of a dot is within its bounds. -/
theorem composing : KeepsBounds (·.composing slot) := by
  have rendered : KeepsBounds fun ppu =>
      if ppu.rendersLine then ppu.renderDot slot else ppu := (renderDot slot).when
  have begun : KeepsBounds beginBlank := of_gauges (Keeps.when fun _ => rfl)
  exact rendered.andThen begun

/-- Making a pixel keeps the bounds. -/
theorem makePixel : KeepsBounds fun ppu => (ppu.makePixel slot).2 := by
  have made : Keeps gauges fun ppu =>
      if ppu.visibleLine && ppu.dotWithin 1 257 then ppu.compose.2 else ppu :=
    Keeps.when gauges_compose
  intro ppu bounded
  dsimp only
  rw [DotPhase.makePixel_snd]
  exact of_gauges made ppu bounded

/-- The next dot is on the grid again. -/
theorem nextDot : KeepsBounds nextDot := by
  intro ppu bounded
  obtain ⟨lineLow, lineHigh⟩ := bounded.line
  obtain ⟨dotLow, dotHigh⟩ := bounded.dot
  have dot : (ppu.dot + 1).toInt = ppu.dot.toInt + 1 := toInt_succ (by omega)
  have line : (ppu.line + 1).toInt = ppu.line.toInt + 1 := toInt_succ (by omega)
  have inLine : ppu.dot + 1 < 341 ↔ ppu.dot.toInt + 1 < 341 := by
    rw [Int16.lt_iff_toInt_lt, dot]
    rfl
  have inFrame : ppu.line + 1 < 261 ↔ ppu.line.toInt + 1 < 261 := by
    rw [Int16.lt_iff_toInt_lt, line]
    rfl
  have first : (0 : Int) ≤ 0 ∧ (0 : Int) ≤ 340 := by decide
  rw [Ppu.nextDot]
  dsimp only
  split
  case isTrue more =>
    have place : 0 ≤ (ppu.dot + 1).toInt ∧ (ppu.dot + 1).toInt ≤ 340 := by
      have below := inLine.1 more
      omega
    exact ⟨⟨lineLow, lineHigh⟩, place, bounded.fineX, bounded.scroll, bounded.nextScroll,
      bounded.count⟩
  case isFalse =>
    split
    case isTrue more =>
      have place : -1 ≤ (ppu.line + 1).toInt ∧ (ppu.line + 1).toInt ≤ 260 := by
        have below := inFrame.1 more
        omega
      exact ⟨place, first, bounded.fineX, bounded.scroll, bounded.nextScroll, bounded.count⟩
    case isFalse =>
      exact ⟨show (-1 : Int) ≤ -1 ∧ (-1 : Int) ≤ 260 by decide, first, bounded.fineX,
        bounded.scroll, bounded.nextScroll, bounded.count⟩

end KeepsBounds

/-- A dot keeps the chip within its bounds. -/
theorem Bounded.clock {κ : Type} [CartridgeSide κ] {ppu : Ppu} (bounded : Bounded ppu)
    (slot : κ) : Bounded (ppu.clock slot).ppu := by
  have composed := KeepsBounds.composing slot ppu bounded
  have drawn := KeepsBounds.makePixel slot _ composed
  rw [DotPhase.clock_ppu]
  exact KeepsBounds.nextDot _ drawn

/-- A pixel lies in the picture. -/
theorem inside_of_makePixel {κ : Type} [CartridgeSide κ] {ppu : Ppu} {slot : κ} {pixel : Pixel}
    (made : (ppu.makePixel slot).1 = some pixel) :
    pixel.x < pictureWidth ∧ pixel.y < pictureHeight := by
  have line : ppu.compose.2.line = ppu.line :=
    congrArg (fun gauges => gauges.grid.1) (gauges_compose ppu)
  have dot : ppu.compose.2.dot = ppu.dot :=
    congrArg (fun gauges => gauges.grid.2) (gauges_compose ppu)
  rw [makePixel] at made
  split at made
  case isFalse => cases made
  case isTrue visible =>
    simp only [visibleLine, dotWithin, Bool.and_eq_true, decide_eq_true_eq,
      Int16.le_iff_toInt_le, Int16.lt_iff_toInt_lt] at visible
    obtain ⟨⟨-, below⟩, left, right⟩ := visible
    change ppu.line.toInt < 240 at below
    change 1 ≤ ppu.dot.toInt at left
    change ppu.dot.toInt < 257 at right
    have column : (ppu.dot - 1).toInt = ppu.dot.toInt - 1 := by
      rw [Int16.toInt_sub]
      change (ppu.dot.toInt - 1).bmod (2 ^ 16) = ppu.dot.toInt - 1
      apply Int.bmod_eq_of_le <;> omega
    dsimp only at made
    split at made
    case isFalse => cases made
    case isTrue =>
      cases made
      rw [line, dot, Int16.toNatClampNeg, Int16.toNatClampNeg, column]
      change (ppu.dot.toInt - 1).toNat < 256 ∧ ppu.line.toInt.toNat < 240
      omega

end Nes.Ppu
