import Nes.Proofs.Ppu.DotPhase
import Nes.Proofs.Ppu.ScrollFields

/-!
# The picture in the nametables

The background is a picture of 512 columns, two nametables wide, whose lines are found by going down
one line after the other (`SourceLine.below`). `backgroundAt` looks one of its pixels up directly:
the number of the tile, the palette in the tile's quarter of an attribute byte, and the colour in
the two planes of the tile's pattern. A scroll word names a tile of a line of this picture, and the
addresses that the chip makes of it are those of the direct look-up.
-/
namespace Nes.Ppu

/-- A line of the nametables. -/
structure SourceLine where
  /-- The nametable down. -/
  table : Nat
  /-- The row of tiles. -/
  row : Nat
  /-- The line within the tiles. -/
  fine : Nat
deriving DecidableEq

namespace SourceLine

/-- The line below. Below row 29, the last one with tiles, the other nametable follows; below row 31
the same nametable starts again. -/
def below (line : SourceLine) : SourceLine :=
  if line.fine < 7 then { line with fine := line.fine + 1 }
  else if line.row = 29 then ⟨1 - line.table, 0, 0⟩
  else if line.row = 31 then ⟨line.table, 0, 0⟩
  else ⟨line.table, line.row + 1, 0⟩

/-- A number of lines further down. -/
def down (line : SourceLine) : Nat → SourceLine
  | 0 => line
  | count + 1 => (line.down count).below

/-- The nametable that a tile of the line lies in. There are 32 tiles across in each. -/
def nametable (line : SourceLine) (tile : Nat) : Nat :=
  0x2000 + 0x400 * (2 * line.table + tile / 32)

end SourceLine

section LookUp

variable (video : Nat → UInt8) (control : Control) (line : SourceLine) (tile : Nat)

/-- The number of a tile. -/
def tileNumber : UInt8 := video (line.nametable tile + 32 * line.row + tile % 32)

/-- The palette of a tile. A byte holds the palettes of four squares of four tiles. -/
def tilePalette : UInt8 :=
  let byte := video (line.nametable tile + 0x3C0 + 8 * (line.row / 4) + tile % 32 / 4)
  let quarter := 2 * (line.row / 2 % 2) + tile / 2 % 2
  Background.pairOf (bit byte (2 * quarter + 1)) (bit byte (2 * quarter))

/-- A plane of a tile on the line; there are two. -/
def tilePlane (plane : Nat) : UInt8 :=
  let table := if control.backgroundTable then 0x1000 else 0
  video (table + 16 * (tileNumber video line tile).toNat + line.fine + 8 * plane)

/-- The background in a column of a line. -/
def backgroundAt (column : Nat) : Candidate :=
  let place := 7 - column % 8
  { palette := tilePalette video line (column / 8)
    color := Background.pairOf (bit (tilePlane video control line (column / 8) 1) place)
      (bit (tilePlane video control line (column / 8) 0) place) }

end LookUp

namespace Scroll

variable (scroll source : Scroll)

/-- The line that a scroll word names. -/
def sourceLine : SourceLine :=
  ⟨scroll.nametableY.toNat, scroll.coarseY.toNat, scroll.fineY.toNat⟩

/-- The tile of the line that a scroll word names. -/
def sourceTile : Nat := 32 * scroll.nametableX.toNat + scroll.coarseX.toNat

/-- The line that a scroll word names is read off three of its numbers. -/
theorem sourceLine_eq :
    scroll.sourceLine
      = ⟨scroll.fields.nametableY, scroll.fields.coarseY, scroll.fields.fineY⟩ := by
  rw [sourceLine, toNat_nametableY, toNat_coarseY, toNat_fineY]

/-- The tile that a scroll word names is read off the two others. -/
theorem sourceTile_eq :
    scroll.sourceTile = 32 * scroll.fields.nametableX + scroll.fields.coarseX := by
  rw [sourceTile, toNat_nametableX, toNat_coarseX]

/-- A line has 64 tiles in its two nametables. -/
theorem sourceTile_lt : scroll.sourceTile < 64 := by
  have bounds := scroll.fields_lt
  rw [sourceTile_eq]
  omega

/-- Of two nametables the other one. -/
theorem toNat_not_mod_two (number : UInt16) : (~~~number).toNat % 2 = 1 - number.toNat % 2 := by
  have bound := number.toNat_lt
  rw [UInt16.toNat_not]
  change (65536 - 1 - number.toNat) % 2 = _
  omega

/-- A step to the right goes from the last column on to the other nametable across. -/
theorem fields_nextColumn :
    scroll.nextColumn.fields
      = if scroll.fields.coarseX = 31 then
          { scroll.fields with coarseX := 0, nametableX := 1 - scroll.fields.nametableX }
        else { scroll.fields with coarseX := scroll.fields.coarseX + 1 } := by
  have bounds := scroll.fields_lt
  have last : scroll.coarseX = 31 ↔ scroll.fields.coarseX = 31 := by
    rw [← UInt16.toNat_inj, toNat_coarseX]
    rfl
  rw [nextColumn]
  by_cases wraps : scroll.fields.coarseX = 31
  · rw [if_pos (last.2 wraps), if_pos wraps, fields_setNametableX, fields_setCoarseX,
      toNat_not_mod_two, toNat_nametableX, Nat.mod_eq_of_lt bounds.2.2.1]
    rfl
  · have next : (scroll.coarseX + 1).toNat % 32 = scroll.fields.coarseX + 1 := by
      rw [UInt16.toNat_add, toNat_coarseX]
      change (scroll.fields.coarseX + 1) % 65536 % 32 = _
      omega
    rw [if_neg (mt last.1 wraps), if_neg wraps, fields_setCoarseX, next]

/-- A move to the right goes to the next of 64 tiles on the same line. -/
theorem source_nextColumn :
    scroll.nextColumn.sourceTile = (scroll.sourceTile + 1) % 64 ∧
      scroll.nextColumn.sourceLine = scroll.sourceLine := by
  have bounds := scroll.fields_lt
  rw [sourceTile_eq, sourceTile_eq, sourceLine_eq, sourceLine_eq, fields_nextColumn]
  split <;> exact ⟨by dsimp only; omega, rfl⟩

/-- A step down goes through a tile first, then to the row below, and from row 29 to the other
nametable. -/
theorem fields_nextLine :
    scroll.nextLine.fields
      = if scroll.fields.fineY < 7 then { scroll.fields with fineY := scroll.fields.fineY + 1 }
        else if scroll.fields.coarseY = 29 then
          { scroll.fields with
            fineY := 0, coarseY := 0, nametableY := 1 - scroll.fields.nametableY }
        else if scroll.fields.coarseY = 31 then { scroll.fields with fineY := 0, coarseY := 0 }
        else { scroll.fields with fineY := 0, coarseY := scroll.fields.coarseY + 1 } := by
  have bounds := scroll.fields_lt
  have inTile : scroll.fineY < 7 ↔ scroll.fields.fineY < 7 := by
    rw [UInt16.lt_iff_toNat_lt, toNat_fineY]
    rfl
  have next : (scroll.fineY + 1).toNat % 8 = (scroll.fields.fineY + 1) % 8 := by
    rw [UInt16.toNat_add, toNat_fineY]
    change (scroll.fields.fineY + 1) % 65536 % 8 = _
    omega
  rw [nextLine]
  by_cases within : scroll.fields.fineY < 7
  · rw [if_pos (inTile.2 within), if_pos within, fields_setFineY,
      next, Nat.mod_eq_of_lt (by omega)]
  · -- from here on the tests are made on the word with the line within the tile set back
    have reset := scroll.fields_setFineY 0
    have row (number : UInt16) :
        (scroll.setFineY 0).coarseY = number ↔ scroll.fields.coarseY = number.toNat := by
      rw [← UInt16.toNat_inj, toNat_coarseY, reset]
    rw [if_neg (mt inTile.1 within), if_neg within]
    dsimp only
    by_cases bottom : scroll.fields.coarseY = 29
    · have table : (~~~(scroll.setFineY 0).nametableY).toNat % 2
          = 1 - scroll.fields.nametableY := by
        rw [toNat_not_mod_two, toNat_nametableY, reset]
        exact congrArg (1 - ·) (Nat.mod_eq_of_lt bounds.2.2.2.1)
      rw [if_pos ((row 29).2 bottom), if_pos bottom, fields_setNametableY, fields_setCoarseY,
        table, reset]
      rfl
    · rw [if_neg (mt (row 29).1 bottom), if_neg bottom]
      by_cases past : scroll.fields.coarseY = 31
      · rw [if_pos ((row 31).2 past), if_pos past, fields_setCoarseY, reset]
        rfl
      · have next : ((scroll.setFineY 0).coarseY + 1).toNat % 32 = scroll.fields.coarseY + 1 := by
          rw [UInt16.toNat_add, toNat_coarseY, reset]
          change (scroll.fields.coarseY + 1) % 65536 % 32 = _
          omega
        rw [if_neg (mt (row 31).1 past), if_neg past, fields_setCoarseY, reset, next]
        rfl

/-- A move down goes to the line below in the same column. -/
theorem source_nextLine :
    scroll.nextLine.sourceTile = scroll.sourceTile ∧
      scroll.nextLine.sourceLine = scroll.sourceLine.below := by
  rw [sourceTile_eq, sourceTile_eq, sourceLine_eq, sourceLine_eq, fields_nextLine,
    SourceLine.below]
  dsimp only
  split
  · exact ⟨rfl, rfl⟩
  split
  · exact ⟨rfl, rfl⟩
  split <;> exact ⟨rfl, rfl⟩

/-- The horizontal fields of another word lead to its tile, on the same line. -/
theorem source_copyHorizontal :
    (scroll.copyHorizontal source).sourceTile = source.sourceTile ∧
      (scroll.copyHorizontal source).sourceLine = scroll.sourceLine := by
  have bounds := source.fields_lt
  rw [sourceTile_eq, sourceTile_eq, sourceLine_eq, sourceLine_eq, copyHorizontal,
    fields_setCoarseX, fields_setNametableX, toNat_coarseX, toNat_nametableX]
  exact ⟨by dsimp only; omega, rfl⟩

/-- The vertical fields of another word lead to its line, and the tile stays. -/
theorem source_copyVertical :
    (scroll.copyVertical source).sourceTile = scroll.sourceTile ∧
      (scroll.copyVertical source).sourceLine = source.sourceLine := by
  have bounds := source.fields_lt
  rw [sourceTile_eq, sourceTile_eq, sourceLine_eq, sourceLine_eq, copyVertical,
    fields_setCoarseY, fields_setNametableY, fields_setFineY, toNat_coarseY, toNat_nametableY,
    toNat_fineY]
  refine ⟨rfl, ?_⟩
  rw [SourceLine.mk.injEq]
  exact ⟨Nat.mod_eq_of_lt bounds.2.2.2.1, Nat.mod_eq_of_lt bounds.2.1,
    Nat.mod_eq_of_lt bounds.2.2.2.2⟩

/-- A tile's number is read in the nametable, at the tile's row and column. -/
theorem toNat_tileAddress :
    scroll.tileAddress.toNat
      = scroll.sourceLine.nametable scroll.sourceTile + 32 * scroll.sourceLine.row
        + scroll.sourceTile % 32 := by
  have low : (scroll.raw &&& 0x0FFF).toNat = scroll.raw.toNat % 4096 := by
    rw [UInt16.toNat_and]
    exact Nat.and_two_pow_sub_one_eq_mod _ 12
  have sum : scroll.tileAddress.toNat = 0x2000 + scroll.raw.toNat % 4096 := by
    rw [tileAddress, UInt16.toNat_or, low]
    exact (Nat.two_pow_add_eq_or_of_lt (i := 12) (Nat.mod_lt _ (by decide)) 2).symm
  rw [sum, sourceLine_eq, sourceTile_eq]
  simp only [SourceLine.nametable, fields, field]
  omega

/-- The parts of the address of a palette share no bits. -/
theorem attributeParts :
    ∀ down < 2, ∀ across < 2, ∀ row < 8, ∀ column < 8,
      0x23C0 ||| down <<< 11 ||| across <<< 10 ||| row <<< 3 ||| column
        = 0x23C0 + 0x800 * down + 0x400 * across + 8 * row + column := by
  decide

/-- A tile's palette is read behind the rows of the nametable, at the tile's square. -/
theorem toNat_attributeAddress :
    scroll.attributeAddress.toNat
      = scroll.sourceLine.nametable scroll.sourceTile + 0x3C0 + 8 * (scroll.sourceLine.row / 4)
        + scroll.sourceTile % 32 / 4 := by
  obtain ⟨column, row, across, down, -⟩ := scroll.fields_lt
  have small (number shift : Nat) (fits : number * 2 ^ shift < 65536) :
      number <<< shift % 65536 = number <<< shift := by
    rw [Nat.shiftLeft_eq]
    exact Nat.mod_eq_of_lt fits
  have parts := attributeParts scroll.fields.nametableY down scroll.fields.nametableX across
    (scroll.fields.coarseY / 4) (by omega) (scroll.fields.coarseX / 4) (by omega)
  have quarter (number : Nat) : number >>> 2 = number / 4 := Nat.shiftRight_eq_div_pow number 2
  have bits : scroll.attributeAddress.toNat
      = 0x23C0 ||| scroll.fields.nametableY <<< 11 % 65536
          ||| scroll.fields.nametableX <<< 10 % 65536
          ||| scroll.fields.coarseY >>> 2 <<< 3 % 65536 ||| scroll.fields.coarseX >>> 2 := by
    rw [← toNat_nametableY, ← toNat_nametableX, ← toNat_coarseY, ← toNat_coarseX]
    rfl
  rw [bits, quarter, quarter, small _ _ (by omega), small _ _ (by omega), small _ _ (by omega),
    parts, sourceLine_eq, sourceTile_eq]
  simp only [SourceLine.nametable]
  omega

/-- A palette number is put together from its own two bits. -/
theorem pairOf_bits (byte : UInt8) :
    Background.pairOf (bit (scroll.attributeOf byte) 1) (bit (scroll.attributeOf byte) 0)
      = scroll.attributeOf byte := by
  have pair (high low : Bool) :
      (Background.pairOf high low).toNat = 2 * high.toNat + low.toNat := by
    cases high <;> cases low <;> rfl
  have small : (scroll.attributeOf byte).toNat < 4 := by
    rw [attributeOf, UInt8.toNat_and]
    exact Nat.lt_of_le_of_lt Nat.and_le_right (by decide)
  apply UInt8.toNat_inj.1
  rw [pair, bit, bit, Nat.testBit_eq_decide_div_mod_eq, Nat.testBit_eq_decide_div_mod_eq]
  have pairs : ∀ number < 4, 2 * (decide (number / 2 ^ 1 % 2 = 1)).toNat
      + (decide (number / 2 ^ 0 % 2 = 1)).toNat = number := by
    decide
  exact pairs _ small

/-- Two bits of the palette byte belong to the tile's quarter of the square. -/
theorem bit_attributeOf (byte : UInt8) (index : Nat) (palette : index < 2) :
    bit (scroll.attributeOf byte) index
      = bit byte (2 * (2 * (scroll.sourceLine.row / 2 % 2) + scroll.sourceTile / 2 % 2)
          + index) := by
  have down : wordBit scroll.coarseY 1 = decide (scroll.sourceLine.row / 2 % 2 = 1) :=
    Nat.testBit_eq_decide_div_mod_eq
  have across : wordBit scroll.coarseX 1 = decide (scroll.sourceTile / 2 % 2 = 1) := by
    have same : scroll.sourceTile / 2 % 2 = scroll.fields.coarseX / 2 % 2 := by
      rw [sourceTile_eq]
      omega
    rw [wordBit, Nat.testBit_eq_decide_div_mod_eq, toNat_coarseX, same]
  have last (byte : UInt8) : bit (byte &&& 0x03) index = bit byte index := by
    have kept : Nat.testBit 3 index = true := by
      rcases (by omega : index = 0 ∨ index = 1) with rfl | rfl <;> rfl
    rw [bit, UInt8.toNat_and, Nat.testBit_and]
    exact (congrArg (_ && ·) kept).trans (Bool.and_true _)
  have moved (byte shift : UInt8) (place : Nat) (small : shift.toNat < 8) :
      bit (byte >>> shift) place = bit byte (shift.toNat + place) := by
    rw [bit, UInt8.toNat_shiftRight, Nat.testBit_shiftRight, Nat.mod_eq_of_lt small]
    rfl
  rw [attributeOf, last, down, across]
  rcases Nat.mod_two_eq_zero_or_one (scroll.sourceLine.row / 2) with top | bottom <;>
    rcases Nat.mod_two_eq_zero_or_one (scroll.sourceTile / 2) with left | right
  case inl.inl => simp [top, left]
  case inl.inr => simp [top, right, moved byte 2]
  case inr.inl => simp [bottom, left, moved byte 4]
  case inr.inr =>
    simp [bottom, right, moved (byte >>> 4) 2, moved byte 4, ← Nat.add_assoc]

end Scroll

/-- A tile is sixteen bytes. -/
theorem toNat_tileStart (tile : UInt8) : (tile.toUInt16 <<< 4).toNat = 16 * tile.toNat := by
  have bound := tile.toNat_lt
  rw [UInt16.toNat_shiftLeft, UInt8.toNat_toUInt16, Nat.shiftLeft_eq]
  change _ * 16 % 65536 = _
  omega

/-- The pattern of a tile is read in the table that the control register picks. -/
theorem toNat_patternAddress (ppu : Ppu) :
    ppu.patternAddress.toNat
      = (if ppu.control.backgroundTable then 0x1000 else 0) + 16 * ppu.background.nextTile.toNat
        + ppu.scroll.sourceLine.fine := by
  have tileBound := ppu.background.nextTile.toNat_lt
  have fineBound := ppu.scroll.fields_lt.2.2.2.2
  have tile := toNat_tileStart ppu.background.nextTile
  have table : (if ppu.control.backgroundTable then 0x1000 else 0 : UInt16).toNat
      = if ppu.control.backgroundTable then 0x1000 else 0 := by
    split <;> rfl
  have small : (if ppu.control.backgroundTable then 0x1000 else 0) ≤ 0x1000 := by
    split <;> decide
  have fine : ppu.scroll.sourceLine.fine = ppu.scroll.fields.fineY := ppu.scroll.toNat_fineY
  dsimp only [patternAddress]
  rw [UInt16.toNat_add, UInt16.toNat_add, tile, table, ppu.scroll.toNat_fineY, fine]
  change ((_ + _) % 65536 + _) % 65536 = _
  omega

/-- The patterns of the background lie in the two pattern tables, both planes of them. -/
theorem patternAddress_lt (ppu : Ppu) : ppu.patternAddress.toNat < 0x2000 - 8 := by
  have tileBound := ppu.background.nextTile.toNat_lt
  have fineBound : ppu.scroll.sourceLine.fine < 8 := by
    rw [Scroll.sourceLine_eq]
    exact ppu.scroll.fields_lt.2.2.2.2
  rw [toNat_patternAddress]
  split <;> omega

section Video

variable {κ : Type} [CartridgeSide κ]

/-- Video memory as the chip reads it. -/
def videoAt (ppu : Ppu) (slot : κ) (address : Nat) : UInt8 := ppu.readVideo slot address.toUInt16

/-- The chip reads video memory from a map of its addresses. -/
def Reads (ppu : Ppu) (slot : κ) (video : Nat → UInt8) : Prop :=
  ∀ address, ppu.readVideo slot address = video address.toNat

/-- Video memory is a map of its addresses. -/
theorem reads_videoAt (ppu : Ppu) (slot : κ) : Reads ppu slot (ppu.videoAt slot) := by
  intro address
  rw [videoAt, Nat.toUInt16_eq, UInt16.ofNat_toNat]

/-- What is read depends on what only the processor writes, and on the cartridge. -/
theorem Reads.of_held {ppu other : Ppu} {slot later : κ} {video : Nat → UInt8}
    (reads : Reads ppu slot video) (held : other.held = ppu.held)
    (character : CartridgeSide.readCharacter later = CartridgeSide.readCharacter slot)
    (mirroring : CartridgeSide.mirroring later = CartridgeSide.mirroring slot) :
    Reads other later video := by
  intro address
  have nametables : other.nametables = ppu.nametables := congrArg Held.nametables held
  have patterns : other.patterns = ppu.patterns := congrArg Held.patterns held
  have palette : other.palette = ppu.palette := congrArg Held.palette held
  have mask : other.mask = ppu.mask := congrArg Held.mask held
  rw [← reads]
  simp only [readVideo, character, mirroring, nametables, patterns, palette, mask]

/-- Chips that agree on what no dot changes read the same from video memory. -/
theorem readVideo_of_held {ppu other : Ppu} (held : other.held = ppu.held) (slot : κ)
    (address : UInt16) : other.readVideo slot address = ppu.readVideo slot address :=
  (((ppu.reads_videoAt slot).of_held held rfl rfl) address).trans
    ((ppu.reads_videoAt slot) address).symm

end Video

namespace Reads

variable {κ : Type} [CartridgeSide κ] {ppu : Ppu} {slot : κ} {video : Nat → UInt8}
  (reads : Reads ppu slot video)

include reads

/-- The address of a tile is that of the direct look-up. -/
theorem tileNumber :
    ppu.readVideo slot ppu.scroll.tileAddress
      = tileNumber video ppu.scroll.sourceLine ppu.scroll.sourceTile := by
  rw [reads, Scroll.toNat_tileAddress]
  rfl

/-- The palette of a tile is found in the quarter that the direct look-up names. -/
theorem tilePalette :
    ppu.scroll.attributeOf (ppu.readVideo slot ppu.scroll.attributeAddress)
      = tilePalette video ppu.scroll.sourceLine ppu.scroll.sourceTile := by
  have low (byte : UInt8) := ppu.scroll.bit_attributeOf byte 0 (by decide)
  have high (byte : UInt8) := ppu.scroll.bit_attributeOf byte 1 (by decide)
  rw [reads, Scroll.toNat_attributeAddress, ← ppu.scroll.pairOf_bits, low, high]
  rfl

/-- The low plane of a fetched tile is that of the direct look-up. -/
theorem tilePlane_low {tile : Nat}
    (fetched : ppu.background.nextTile = Ppu.tileNumber video ppu.scroll.sourceLine tile) :
    ppu.readVideo slot ppu.patternAddress
      = tilePlane video ppu.control ppu.scroll.sourceLine tile 0 := by
  rw [reads, toNat_patternAddress, fetched]
  rfl

/-- So is its high plane. -/
theorem tilePlane_high {tile : Nat}
    (fetched : ppu.background.nextTile = Ppu.tileNumber video ppu.scroll.sourceLine tile) :
    ppu.readVideo slot (ppu.patternAddress + 8)
      = tilePlane video ppu.control ppu.scroll.sourceLine tile 1 := by
  have plane : (ppu.patternAddress + 8).toNat = ppu.patternAddress.toNat + 8 := by
    have bound := ppu.patternAddress_lt
    rw [UInt16.toNat_add]
    change (_ + 8) % 65536 = _
    omega
  rw [reads, plane, toNat_patternAddress, fetched]
  rfl

end Reads

end Nes.Ppu
