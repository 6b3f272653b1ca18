import Nes.Word

/-!
# Scroll words

One word is both the address of an access to video memory and the place in the nametables that
the picture is drawn from. From the low end it holds the column of a tile (five bits), the row of
a tile (five bits), the nametable across and down (one bit each) and the line within the tile
(three bits).
-/
namespace Nes.Ppu

/-- A scroll word. -/
structure Scroll where
  /-- All sixteen bits. -/
  raw : UInt16
deriving DecidableEq

namespace Scroll

/-- The column of the tile. -/
@[inline] def coarseX (scroll : Scroll) : UInt16 := scroll.raw &&& 0x001F

/-- The row of the tile. -/
@[inline] def coarseY (scroll : Scroll) : UInt16 := (scroll.raw &&& 0x03E0) >>> 5

/-- The nametable across. -/
@[inline] def nametableX (scroll : Scroll) : UInt16 := (scroll.raw &&& 0x0400) >>> 10

/-- The nametable down. -/
@[inline] def nametableY (scroll : Scroll) : UInt16 := (scroll.raw &&& 0x0800) >>> 11

/-- The line within the tile. -/
@[inline] def fineY (scroll : Scroll) : UInt16 := (scroll.raw &&& 0x7000) >>> 12

/-- Replace the column of the tile by the low five bits of a value. -/
@[inline] def setCoarseX (scroll : Scroll) (value : UInt16) : Scroll :=
  ⟨(scroll.raw &&& 0xFFE0) ||| (value &&& 0x001F)⟩

/-- Replace the row of the tile by the low five bits of a value. -/
@[inline] def setCoarseY (scroll : Scroll) (value : UInt16) : Scroll :=
  let field : UInt16 := (value &&& 0x001F) <<< 5
  ⟨(scroll.raw &&& 0xFC1F) ||| field⟩

/-- Replace the nametable across by the low bit of a value. -/
@[inline] def setNametableX (scroll : Scroll) (value : UInt16) : Scroll :=
  let field : UInt16 := (value &&& 0x0001) <<< 10
  ⟨(scroll.raw &&& 0xFBFF) ||| field⟩

/-- Replace the nametable down by the low bit of a value. -/
@[inline] def setNametableY (scroll : Scroll) (value : UInt16) : Scroll :=
  let field : UInt16 := (value &&& 0x0001) <<< 11
  ⟨(scroll.raw &&& 0xF7FF) ||| field⟩

/-- Replace the line within the tile by the low three bits of a value. -/
@[inline] def setFineY (scroll : Scroll) (value : UInt16) : Scroll :=
  let field : UInt16 := (value &&& 0x0007) <<< 12
  ⟨(scroll.raw &&& 0x8FFF) ||| field⟩

/-- The address after an access to video memory; addresses have fifteen bits. -/
def advance (scroll : Scroll) (step : UInt16) : Scroll := ⟨(scroll.raw + step) &&& 0x7FFF⟩

/-- One tile to the right; past the last column the nametable across changes. -/
def nextColumn (scroll : Scroll) : Scroll :=
  if scroll.coarseX = 31 then
    (scroll.setCoarseX 0).setNametableX (~~~scroll.nametableX)
  else scroll.setCoarseX (scroll.coarseX + 1)

/-- One line down. The nametable down changes past row 29, the last one with tiles; past row 31
it does not. -/
def nextLine (scroll : Scroll) : Scroll :=
  if scroll.fineY < 7 then scroll.setFineY (scroll.fineY + 1)
  else
    let scroll := scroll.setFineY 0
    if scroll.coarseY = 29 then (scroll.setCoarseY 0).setNametableY (~~~scroll.nametableY)
    else if scroll.coarseY = 31 then scroll.setCoarseY 0
    else scroll.setCoarseY (scroll.coarseY + 1)

/-- Take the column and the nametable across from another word. -/
def copyHorizontal (scroll source : Scroll) : Scroll :=
  (scroll.setNametableX source.nametableX).setCoarseX source.coarseX

/-- Take the line, the row and the nametable down from another word. -/
def copyVertical (scroll source : Scroll) : Scroll :=
  ((scroll.setFineY source.fineY).setNametableY source.nametableY).setCoarseY source.coarseY

/-- The address of the tile's number in the nametables. -/
def tileAddress (scroll : Scroll) : UInt16 := 0x2000 ||| (scroll.raw &&& 0x0FFF)

/-- The address of the byte that holds the tile's palette. -/
def attributeAddress (scroll : Scroll) : UInt16 :=
  let down : UInt16 := scroll.nametableY <<< 11
  let across : UInt16 := scroll.nametableX <<< 10
  let row : UInt16 := (scroll.coarseY >>> 2) <<< 3
  let column : UInt16 := scroll.coarseX >>> 2
  0x23C0 ||| down ||| across ||| row ||| column

/-- The two bits of an attribute byte that belong to the tile's quarter of the byte's area. -/
def attributeOf (scroll : Scroll) (byte : UInt8) : UInt8 :=
  let byte := if wordBit scroll.coarseY 1 then byte >>> 4 else byte
  let byte := if wordBit scroll.coarseX 1 then byte >>> 2 else byte
  byte &&& 0x03

end Scroll

end Nes.Ppu
