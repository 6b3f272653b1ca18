import Nes.Ppu.Background
import Nes.Ppu.Flags

/-!
# The sprite pipeline

At the end of each line the sprites of the next line are selected: the first eight entries of
sprite memory, in order, whose lines cover the current one. Their patterns are fetched into one
pair of shift registers for each. On the next line an entry's `x` counts down to zero, and from
then on its registers shift one bit for each dot. The first of the eight with an opaque bit is the
candidate of the dot.
-/
namespace Nes.Ppu

/-- The number of sprites that fit on a line. -/
def spritesPerLine : Nat := 8

/-- One sprite: four bytes of sprite memory. -/
structure OamEntry where
  /-- The line above the sprite. -/
  y : UInt8
  /-- The number of its tile. -/
  tile : UInt8
  /-- Palette, priority and flips. -/
  attributes : UInt8
  /-- Its leftmost column. -/
  x : UInt8
deriving DecidableEq

namespace OamEntry

/-- A slot without a sprite. -/
def empty : OamEntry := ⟨0xFF, 0xFF, 0xFF, 0xFF⟩

instance : Inhabited OamEntry := ⟨empty⟩

/-- The sprite is upside down. -/
@[inline] def flipsVertically (entry : OamEntry) : Bool := bit entry.attributes 7

/-- Left and right of the sprite are exchanged. -/
@[inline] def flipsHorizontally (entry : OamEntry) : Bool := bit entry.attributes 6

/-- The sprite lies behind the background. -/
@[inline] def liesBehind (entry : OamEntry) : Bool := bit entry.attributes 5

/-- The palette of the sprite; sprites have the four upper palettes. -/
@[inline] def palette (entry : OamEntry) : UInt8 := (entry.attributes &&& 0x03) + 4

/-- Whether the sprite is drawn on the line after `line`. -/
def covers (entry : OamEntry) (line : Int16) (height : Nat) : Bool :=
  let row := line.toInt - entry.y.toNat
  0 ≤ row && row < height

/-- The entry at an index of sprite memory. -/
def ofMemory (oam : Memory 256) (index : Nat) : OamEntry :=
  ⟨oam.read (4 * index), oam.read (4 * index + 1), oam.read (4 * index + 2),
    oam.read (4 * index + 3)⟩

/-- The 64 entries of sprite memory in order. -/
def all (oam : Memory 256) : List OamEntry := (List.range 64).map (ofMemory oam)

open SaveState in
/-- The stored form of an entry. -/
def codec : Codec OamEntry :=
  (Codec.memory 4).map (fun bytes => ⟨bytes.read 0, bytes.read 1, bytes.read 2, bytes.read 3⟩)
    fun entry => Memory.ofList [entry.y, entry.tile, entry.attributes, entry.x] rfl

end OamEntry

/-- The foreground candidate of a dot. -/
structure Foreground where
  /-- What it shows. -/
  candidate : Candidate
  /-- It lies in front of the background. -/
  inFront : Bool
deriving DecidableEq

/-- A foreground that shows nothing. -/
def Foreground.clear : Foreground := ⟨Candidate.clear, false⟩

/-- The selected sprites and their shift registers. -/
structure Sprites where
  /-- The selected entries; `x` counts down. -/
  slots : Vector OamEntry 8
  /-- How many entries are selected. -/
  count : UInt8
  /-- The low planes. -/
  patternLow : Vector UInt8 8
  /-- The high planes. -/
  patternHigh : Vector UInt8 8
  /-- The first slot holds sprite zero. -/
  zeroSelected : Bool
  /-- The candidate of the latest dot came from the first slot. -/
  zeroShown : Bool
deriving DecidableEq

namespace Sprites

/-- Shift registers without a pattern. -/
def noPattern : Vector UInt8 8 := Vector.replicate 8 0

/-- The pipeline at power-on. -/
def powerOn : Sprites where
  slots := Vector.replicate 8 OamEntry.empty
  count := 0
  patternLow := noPattern
  patternHigh := noPattern
  zeroSelected := false
  zeroShown := false

/-- Whether a slot is in use. -/
@[inline] def uses (sprites : Sprites) (index : Nat) : Bool := index < sprites.count.toNat

/-- Forget the selected sprites and their patterns; the slots keep their bytes. -/
def deselect (sprites : Sprites) : Sprites :=
  { sprites with count := 0, patternLow := noPattern, patternHigh := noPattern }

/-- One dot of a slot that has not reached its column. -/
def countDown (entry : OamEntry) : OamEntry :=
  if entry.x = 0 then entry else { entry with x := entry.x - 1 }

/-- One dot of the pipeline: count down, or shift the slots that have reached their column. -/
def shift (sprites : Sprites) : Sprites :=
  if sprites.count = 0 then sprites
  else
    let arrived (index : Fin 8) : Bool := sprites.uses index && sprites.slots[index].x == 0
    { sprites with
      slots := Vector.ofFn fun index =>
        if sprites.uses index then countDown sprites.slots[index] else sprites.slots[index]
      patternLow := Vector.ofFn fun index =>
        if arrived index then sprites.patternLow[index] <<< 1 else sprites.patternLow[index]
      patternHigh := Vector.ofFn fun index =>
        if arrived index then sprites.patternHigh[index] <<< 1 else sprites.patternHigh[index] }

/-- The colour number that a slot shows at the current dot. -/
def colorOf (sprites : Sprites) (index : Fin 8) : UInt8 :=
  if sprites.uses index && sprites.slots[index].x == 0 then
    Background.pairOf (bit sprites.patternHigh[index] 7) (bit sprites.patternLow[index] 7)
  else 0

/-- The first slot that shows an opaque colour. -/
def shown? (sprites : Sprites) : Option (Fin 8) :=
  (List.finRange 8).find? fun index => sprites.colorOf index != 0

/-- The foreground of the current dot, and the pipeline with its source noted. -/
def foreground (sprites : Sprites) : Foreground × Sprites :=
  match sprites.shown? with
  | none => (.clear, { sprites with zeroShown := false })
  | some index =>
    let entry := sprites.slots[index]
    (⟨⟨entry.palette, sprites.colorOf index⟩, !entry.liesBehind⟩,
      { sprites with zeroShown := index == 0 })

/-- The entries of sprite memory that are drawn on the line after `line`, in order. -/
def onLine (oam : Memory 256) (line : Int16) (height : Nat) : List OamEntry :=
  (OamEntry.all oam).filter fun entry => entry.covers line height

/-- Select the sprites of the line after `line`. -/
def select (sprites : Sprites) (oam : Memory 256) (line : Int16) (height : Nat) : Sprites :=
  let entries := (onLine oam line height).take spritesPerLine
  { sprites with
    slots := Vector.ofFn fun index => entries[index.val]?.getD OamEntry.empty
    count := entries.length.toUInt8
    patternLow := noPattern
    patternHigh := noPattern
    zeroSelected := (OamEntry.ofMemory oam 0).covers line height }

/-- Whether more sprites are drawn on the line after `line` than fit. -/
def overflows (oam : Memory 256) (line : Int16) (height : Nat) : Bool :=
  spritesPerLine < (onLine oam line height).length

end Sprites

/-- The address of a sprite's pattern, low plane, on the line after `line`. Tall sprites take
their table from the low bit of the tile number and are two tiles high. -/
def OamEntry.patternAddress (entry : OamEntry) (control : Control) (line : Int16) : UInt16 :=
  let row := (line - entry.y.toUInt16.toInt16).toUInt16
  let fine : UInt16 := if entry.flipsVertically then 7 - (row &&& 7) else row &&& 7
  if control.tallSprites then
    let table : UInt16 := if bit entry.tile 0 then 0x1000 else 0
    let top : UInt16 := (entry.tile &&& 0xFE).toUInt16
    let tile := if (row < 8) != entry.flipsVertically then top else top + 1
    table ||| tile <<< 4 ||| fine
  else
    let table : UInt16 := if control.spriteTable then 0x1000 else 0
    table ||| entry.tile.toUInt16 <<< 4 ||| fine

end Nes.Ppu
