import Nes.SaveState.Codec

/-!
# The background pipeline

Tiles are fetched ahead of the picture. A fetched tile waits in four bytes until it is loaded
into the low halves of four shift registers, from where it moves to the high halves one bit for
each dot. The pixel of a dot is taken from the high halves, at the bit that the fine horizontal
scroll names.
-/
namespace Nes.Ppu

/-- A palette number and a colour number within it; colour zero is transparent. -/
structure Candidate where
  /-- The palette. -/
  palette : UInt8
  /-- The colour within the palette. -/
  color : UInt8
deriving DecidableEq

/-- The candidate that shows nothing. -/
def Candidate.clear : Candidate := ⟨0, 0⟩

/-- Whether the candidate shows anything. -/
@[inline] def Candidate.isOpaque (candidate : Candidate) : Bool := candidate.color != 0

/-- The fetched tile and the shift registers. -/
structure Background where
  /-- The number of the tile fetched last. -/
  nextTile : UInt8
  /-- The palette of the tile fetched last. -/
  nextAttribute : UInt8
  /-- The low plane of the tile fetched last. -/
  nextLow : UInt8
  /-- The high plane of the tile fetched last. -/
  nextHigh : UInt8
  /-- The low plane. -/
  patternLow : UInt16
  /-- The high plane. -/
  patternHigh : UInt16
  /-- The low palette bit, once for each pixel. -/
  attributeLow : UInt16
  /-- The high palette bit, once for each pixel. -/
  attributeHigh : UInt16
deriving DecidableEq

namespace Background

/-- The pipeline at power-on. -/
def powerOn : Background := ⟨0, 0, 0, 0, 0, 0, 0, 0⟩

/-- Put the fetched tile into the low halves of the shift registers. -/
def load (background : Background) : Background :=
  { background with
    patternLow := (background.patternLow &&& 0xFF00) ||| background.nextLow.toUInt16
    patternHigh := (background.patternHigh &&& 0xFF00) ||| background.nextHigh.toUInt16
    attributeLow := (background.attributeLow &&& 0xFF00) ||| spread (bit background.nextAttribute 0)
    attributeHigh :=
      (background.attributeHigh &&& 0xFF00) ||| spread (bit background.nextAttribute 1) }

/-- Move every shift register by one bit. -/
def shift (background : Background) : Background :=
  { background with
    patternLow := background.patternLow <<< 1
    patternHigh := background.patternHigh <<< 1
    attributeLow := background.attributeLow <<< 1
    attributeHigh := background.attributeHigh <<< 1 }

/-- Two bits as a number. -/
@[inline] def pairOf (high low : Bool) : UInt8 := high.toUInt8 <<< 1 ||| low.toUInt8

/-- The candidate at a fine horizontal scroll. -/
def candidate (background : Background) (fineX : UInt8) : Candidate :=
  let place : UInt16 := 0x8000 >>> fineX.toUInt16
  let reads (word : UInt16) : Bool := word &&& place != 0
  { palette := pairOf (reads background.attributeHigh) (reads background.attributeLow)
    color := pairOf (reads background.patternHigh) (reads background.patternLow) }

open SaveState in
/-- The stored form of the pipeline. -/
def codec : Codec Background :=
  ((Codec.memory 4).pair (Codec.word.pair (Codec.word.pair (Codec.word.pair Codec.word)))).map
    (fun (next, patternLow, patternHigh, attributeLow, attributeHigh) =>
      ⟨next.read 0, next.read 1, next.read 2, next.read 3, patternLow, patternHigh, attributeLow,
        attributeHigh⟩)
    fun background =>
      (Memory.ofList [background.nextTile, background.nextAttribute, background.nextLow,
          background.nextHigh] rfl,
        background.patternLow, background.patternHigh, background.attributeLow,
        background.attributeHigh)

end Background

end Nes.Ppu
