import Mathlib.Data.Nat.Bitwise
import Nes.Proofs.Ppu.DotWork
import Nes.Proofs.Ppu.Nametables

/-!
# The stream of background pixels

The tiles of a line go through the pipeline one after the other, from two tiles ahead of the
picture on. How far a stream has come is told by the number of columns that have moved into the
shift registers (`Streaming`): it says which columns the registers hold, which tile is being
fetched, and which of its bytes have been fetched already. Each dot on which the pipelines run moves
the stream on by one column (`Streaming.next`).
-/
namespace Nes.Ppu

/-- A shift register after a number of columns have moved into it. Column `entered - 1` is at the
lowest bit; columns are loaded by eights. -/
def Shows (source : Nat → Bool) (entered : Nat) (word : UInt16) : Prop :=
  ∀ column < 8 * (entered / 8), entered ≤ column + 16 →
    wordBit word (entered - 1 - column) = source column

namespace Shows

variable {source : Nat → Bool} {entered : Nat} {word : UInt16}

/-- The bits of a word that moved by one place. -/
theorem wordBit_shiftLeft_one (word : UInt16) (index : Nat) (inside : index + 1 < 16) :
    wordBit (word <<< 1) (index + 1) = wordBit word index := by
  rw [wordBit, UInt16.toNat_shiftLeft]
  change (word.toNat <<< 1 % 2 ^ 16).testBit (index + 1) = _
  rw [Nat.testBit_mod_two_pow, Nat.testBit_shiftLeft]
  simp [inside, wordBit]

/-- Between two loads the register moves on by one column. -/
theorem shift (shown : Shows source entered word) (within : entered % 8 ≠ 7) :
    Shows source (entered + 1) (word <<< 1) := by
  intro column known near
  have moved : entered + 1 - 1 - column = entered - 1 - column + 1 := by omega
  rw [moved, wordBit_shiftLeft_one _ _ (by omega)]
  exact shown column (by omega) (by omega)

/-- A load puts the eight columns of a tile in behind the ones that are there. -/
theorem load (shown : Shows source entered word) (full : entered % 8 = 7) {put : UInt16}
    (small : put.toNat < 256)
    (fresh : ∀ index < 8, wordBit put index = source (entered - index)) :
    Shows source (entered + 1) ((word <<< 1 &&& 0xFF00) ||| put) := by
  intro column known near
  have split : wordBit ((word <<< 1 &&& 0xFF00) ||| put) (entered - column)
      = (wordBit (word <<< 1) (entered - column) && (0xFF00).testBit (entered - column)
          || wordBit put (entered - column)) := by
    rw [wordBit, UInt16.toNat_or, UInt16.toNat_and, Nat.testBit_or, Nat.testBit_and]
    rfl
  rw [Nat.add_sub_cancel, split]
  by_cases recent : entered - column < 8
  · have low : ∀ index < 8, (0xFF00).testBit index = false := by decide
    rw [low _ recent, Bool.and_false, Bool.false_or, fresh _ recent]
    congr 1
    omega
  · have high : ∀ index < 16, 8 ≤ index → (0xFF00).testBit index = true := by decide
    have beyond : 2 ^ 8 ≤ 2 ^ (entered - column) := Nat.pow_le_pow_right (by decide) (by omega)
    have empty : wordBit put (entered - column) = false :=
      Nat.testBit_lt_two_pow (Nat.lt_of_lt_of_le small beyond)
    have moved : entered - column = entered - 1 - column + 1 := by omega
    rw [high _ (by omega) (by omega), empty, Bool.and_true, Bool.or_false, moved,
      wordBit_shiftLeft_one _ _ (by omega)]
    exact shown column (by omega) (by omega)

/-- A byte, and one bit spread over a byte, fill the low half of a word. -/
theorem toNat_toUInt16_lt (byte : UInt8) : byte.toUInt16.toNat < 256 := by
  rw [UInt8.toNat_toUInt16]
  exact byte.toNat_lt

/-- A palette bit fills the low half of a word at most. -/
theorem toNat_spread_lt (on : Bool) : (spread on).toNat < 256 := by
  cases on <;> decide

/-- A palette bit is the same for all eight pixels of a tile. -/
theorem wordBit_spread (on : Bool) {index : Nat} (low : index < 8) :
    wordBit (spread on) index = on := by
  have bits : ∀ index < 8, wordBit 0x0000 index = false ∧ wordBit 0x00FF index = true := by decide
  cases on
  · exact (bits index low).1
  · exact (bits index low).2

/-- The bit that a fine horizontal scroll names. -/
theorem reads_place (word : UInt16) {fineX : UInt8} (fine : fineX.toNat < 8) :
    (word &&& (0x8000 : UInt16) >>> fineX.toUInt16 != 0) = wordBit word (15 - fineX.toNat) := by
  have place : ((0x8000 : UInt16) >>> fineX.toUInt16).toNat = 2 ^ (15 - fineX.toNat) := by
    rw [UInt16.toNat_shiftRight, UInt8.toNat_toUInt16, Nat.mod_eq_of_lt (by omega),
      Nat.shiftRight_eq_div_pow]
    exact Nat.pow_div (by omega : fineX.toNat ≤ 15) (by decide : 0 < 2)
  have set : word &&& (0x8000 : UInt16) >>> fineX.toUInt16 = 0
      ↔ wordBit word (15 - fineX.toNat) = false := by
    rw [← UInt16.toNat_inj, UInt16.toNat_and, place, Nat.and_two_pow, wordBit]
    cases word.toNat.testBit (15 - fineX.toNat) <;> simp
  rw [bne, Bool.not_eq_eq_eq_not, Bool.eq_iff_iff, beq_iff_eq, set]
  cases wordBit word (15 - fineX.toNat) <;> simp

end Shows

/-- A stream of tiles: a line of the nametables from some tile on, in what video memory holds. -/
structure TileStream where
  /-- Video memory. -/
  video : Nat → UInt8
  /-- The control register. -/
  control : Control
  /-- The line. -/
  line : SourceLine
  /-- The first tile. -/
  start : Nat

namespace TileStream

variable (stream : TileStream)

/-- The tile that a column of the stream lies in. A line has 64 tiles. -/
def tile (column : Nat) : Nat := (stream.start + column / 8) % 64

/-- The number of a column's tile. -/
def number (column : Nat) : UInt8 := tileNumber stream.video stream.line (stream.tile column)

/-- The palette of a column's tile. -/
def palette (column : Nat) : UInt8 := tilePalette stream.video stream.line (stream.tile column)

/-- A plane of a column's tile. -/
def plane (index column : Nat) : UInt8 :=
  tilePlane stream.video stream.control stream.line (stream.tile column) index

/-- The pixel of a column. -/
def pixel (column : Nat) : Candidate :=
  backgroundAt stream.video stream.control stream.line ((8 * stream.start + column) % 512)

/-- The columns of a tile share it. -/
theorem tile_succ {column : Nat} (within : column % 8 ≠ 7) :
    stream.tile (column + 1) = stream.tile column := by
  rw [tile, tile, show (column + 1) / 8 = column / 8 by omega]

/-- The four bits of a column are those of its tile. -/
theorem pixel_eq (column : Nat) :
    stream.pixel column
      = { palette := stream.palette column
          color := Background.pairOf (bit (stream.plane 1 column) (7 - column % 8))
            (bit (stream.plane 0 column) (7 - column % 8)) } := by
  have tile : (8 * stream.start + column) % 512 / 8 = stream.tile column := by
    rw [TileStream.tile]
    omega
  have place : (8 * stream.start + column) % 512 % 8 = column % 8 := by omega
  rw [pixel, backgroundAt, tile, place]
  rfl

end TileStream

/-- The shift registers hold a stream. -/
structure Holds (stream : TileStream) (entered : Nat) (background : Background) : Prop where
  /-- The low planes of its pixels. -/
  patternLow :
    Shows (fun column => bit (stream.plane 0 column) (7 - column % 8)) entered
      background.patternLow
  /-- The high planes of its pixels. -/
  patternHigh :
    Shows (fun column => bit (stream.plane 1 column) (7 - column % 8)) entered
      background.patternHigh
  /-- The low bits of its palettes. -/
  attributeLow :
    Shows (fun column => bit (stream.palette column) 0) entered background.attributeLow
  /-- The high bits of its palettes. -/
  attributeHigh :
    Shows (fun column => bit (stream.palette column) 1) entered background.attributeHigh

/-- The pipeline is at work on a stream, and has spent a number of dots on the current tile: its
number is fetched in the first one, and its other bytes in every second one after that. -/
structure Streaming (stream : TileStream) (entered dots : Nat) (background : Background) :
    Prop where
  /-- The number of the tile is there. -/
  tile : background.nextTile = stream.number entered
  /-- Its palette comes next. -/
  palette : 2 ≤ dots → background.nextAttribute = stream.palette entered
  /-- Then its low plane. -/
  low : 4 ≤ dots → background.nextLow = stream.plane 0 entered
  /-- Then its high plane. -/
  high : 6 ≤ dots → background.nextHigh = stream.plane 1 entered
  /-- The tiles before it are in the shift registers. -/
  registers : Holds stream entered background

namespace Holds

open Shows

variable {stream : TileStream} {entered : Nat} {background : Background}

/-- Within a tile, a shift moves one column more into the registers. -/
theorem shift (holds : Holds stream entered background) (within : entered % 8 ≠ 7) :
    Holds stream (entered + 1) background.shift where
  patternLow := holds.patternLow.shift within
  patternHigh := holds.patternHigh.shift within
  attributeLow := holds.attributeLow.shift within
  attributeHigh := holds.attributeHigh.shift within

/-- No column has been loaded when a stream begins. -/
theorem begins (background : Background) : Holds stream 0 background := by
  have nothing (source : Nat → Bool) (word : UInt16) : Shows source 0 word :=
    fun column known => absurd known (Nat.not_lt_zero column)
  exact ⟨nothing _ _, nothing _ _, nothing _ _, nothing _ _⟩

/-- A fetched tile follows the one before it. -/
theorem load (streaming : Streaming stream entered 7 background) (full : entered % 8 = 7) :
    Holds stream (entered + 1) background.shift.load := by
  have same (index : Nat) (recent : index < 8) :
      stream.tile (entered - index) = stream.tile entered := by
    rw [TileStream.tile, TileStream.tile, show (entered - index) / 8 = entered / 8 by omega]
  have plane (number index : Nat) (recent : index < 8) :
      bit (stream.plane number entered) index
        = bit (stream.plane number (entered - index)) (7 - (entered - index) % 8) := by
    rw [TileStream.plane, TileStream.plane, same index recent,
      show 7 - (entered - index) % 8 = index by omega]
  have palette (place index : Nat) (recent : index < 8) :
      wordBit (spread (bit (stream.palette entered) place)) index
        = bit (stream.palette (entered - index)) place := by
    rw [wordBit_spread _ recent, TileStream.palette, TileStream.palette, same index recent]
  have low : background.shift.nextLow = _ := streaming.low (by decide)
  have high : background.shift.nextHigh = _ := streaming.high (by decide)
  have painted : background.shift.nextAttribute = _ := streaming.palette (by decide)
  rw [Background.load, low, high, painted]
  exact {
    patternLow := streaming.registers.patternLow.load full (toNat_toUInt16_lt _) (plane 0)
    patternHigh := streaming.registers.patternHigh.load full (toNat_toUInt16_lt _) (plane 1)
    attributeLow := streaming.registers.attributeLow.load full (toNat_spread_lt _) (palette 0)
    attributeHigh := streaming.registers.attributeHigh.load full (toNat_spread_lt _) (palette 1) }

/-- The candidate of a dot is the pixel of a column that has been loaded. -/
theorem candidate (holds : Holds stream (16 + column) background) {fineX : UInt8}
    (fine : fineX.toNat < 8) :
    background.candidate fineX = stream.pixel (column + fineX.toNat) := by
  have bits {source : Nat → Bool} {word : UInt16} (shown : Shows source (16 + column) word) :
      wordBit word (15 - fineX.toNat) = source (column + fineX.toNat) := by
    have moved : 16 + column - 1 - (column + fineX.toNat) = 15 - fineX.toNat := by omega
    rw [← moved]
    exact shown _ (by omega) (by omega)
  have palette (high low : Bool) :
      Background.pairOf (bit (Background.pairOf high low) 1) (bit (Background.pairOf high low) 0)
        = Background.pairOf high low := by
    cases high <;> cases low <;> rfl
  simp only [Background.candidate, Shows.reads_place _ fine, bits holds.patternLow,
    bits holds.patternHigh, bits holds.attributeLow, bits holds.attributeHigh,
    stream.pixel_eq]
  rw [TileStream.palette, tilePalette, palette]

end Holds

namespace Streaming

variable {stream : TileStream} {entered dots : Nat} {background : Background}

/-- A stream begins when its first tile is asked for. -/
theorem begins (background : Background) :
    Streaming stream 0 0 { background with nextTile := stream.number 0 } where
  tile := rfl
  palette late := absurd late (by decide)
  low late := absurd late (by decide)
  high late := absurd late (by decide)
  registers := Holds.begins _

/-- The bytes of a tile stay while its columns have not come yet. -/
theorem shift (streaming : Streaming stream entered dots background) (within : entered % 8 ≠ 7) :
    Streaming stream (entered + 1) dots background.shift := by
  have same := stream.tile_succ within
  constructor
  case registers => exact streaming.registers.shift within
  all_goals simp only [TileStream.number, TileStream.palette, TileStream.plane, same]
  case tile => exact streaming.tile
  case palette => exact streaming.palette
  case low => exact streaming.low
  case high => exact streaming.high

/-- A dot on which nothing is fetched. -/
theorem wait (streaming : Streaming stream entered dots background) (even : dots % 2 = 0) :
    Streaming stream entered (dots + 1) background where
  tile := streaming.tile
  palette late := streaming.palette (by omega)
  low late := streaming.low (by omega)
  high late := streaming.high (by omega)
  registers := streaming.registers

/-- Two dots behind its number, a tile has its palette fetched. -/
theorem fetchPalette (streaming : Streaming stream entered 1 background) :
    Streaming stream entered 2 { background with nextAttribute := stream.palette entered } where
  tile := streaming.tile
  palette _ := rfl
  low late := absurd late (by decide)
  high late := absurd late (by decide)
  registers := ⟨streaming.registers.1, streaming.registers.2, streaming.registers.3,
    streaming.registers.4⟩

/-- Two dots behind its palette, a tile has its low plane fetched. -/
theorem fetchLow (streaming : Streaming stream entered 3 background) :
    Streaming stream entered 4 { background with nextLow := stream.plane 0 entered } where
  tile := streaming.tile
  palette _ := streaming.palette (by decide)
  low _ := rfl
  high late := absurd late (by decide)
  registers := ⟨streaming.registers.1, streaming.registers.2, streaming.registers.3,
    streaming.registers.4⟩

/-- Two dots behind its low plane, a tile has its high plane fetched. -/
theorem fetchHigh (streaming : Streaming stream entered 5 background) :
    Streaming stream entered 6 { background with nextHigh := stream.plane 1 entered } where
  tile := streaming.tile
  palette _ := streaming.palette (by decide)
  low _ := streaming.low (by decide)
  high _ := rfl
  registers := ⟨streaming.registers.1, streaming.registers.2, streaming.registers.3,
    streaming.registers.4⟩

/-- When a tile is loaded the next one is asked for. -/
theorem load (streaming : Streaming stream entered 7 background) (full : entered % 8 = 7) :
    Streaming stream (entered + 1) 0
      { background.shift.load with nextTile := stream.number (entered + 1) } where
  tile := rfl
  palette late := absurd late (by decide)
  low late := absurd late (by decide)
  high late := absurd late (by decide)
  registers :=
    have registers := Holds.load streaming full
    ⟨registers.1, registers.2, registers.3, registers.4⟩

end Streaming

/-- The background side is at work on a stream: the pipeline, and the scroll word that names the
tile to be fetched from. -/
structure Scanning (stream : TileStream) (entered : Nat) (side : TileSide) : Prop where
  /-- A tile takes eight dots. -/
  streaming : Streaming stream entered (entered % 8) side.background
  /-- The scroll word is on the line of the stream. -/
  line : side.scroll.sourceLine = stream.line
  /-- It is on the tile of the next column. -/
  tile : side.scroll.sourceTile = stream.tile (entered + 1)

/-- The chip shows the background that a stream comes from. -/
structure Serves {κ : Type} [CartridgeSide κ] (ppu : Ppu) (slot : κ) (stream : TileStream) :
    Prop where
  /-- The background is shown. -/
  shown : ppu.mask.showBackground = true
  /-- The tables are those of the stream. -/
  control : ppu.control = stream.control
  /-- So is video memory. -/
  reads : Reads ppu slot stream.video

section Dots

variable {κ : Type} [CartridgeSide κ] {ppu : Ppu} {slot : κ} {stream : TileStream}
  {place entered : Nat}

/-- Where a stream is served, rendering is on. -/
theorem Serves.rendering (serves : Serves ppu slot stream) : ppu.mask.rendering = true := by
  rw [Mask.rendering, serves.shown, Bool.true_or]

/-- Shifting moves the background while that is shown, and leaves the scroll word. -/
theorem tiles_shiftPipelines (shown : ppu.mask.showBackground = true) :
    ppu.shiftPipelines.tiles = ⟨ppu.background.shift, ppu.scroll⟩ := by
  simp only [shiftPipelines, shown, if_true]
  split <;> rfl

/-- A dot within a tile. -/
theorem Scanning.fetch {dots : Nat} (streaming : Streaming stream entered dots ppu.background)
    (line : ppu.scroll.sourceLine = stream.line)
    (tile : ppu.scroll.sourceTile = stream.tile entered) (aligned : entered % 8 = dots + 1)
    (step : (ppu.dot - 1).toNatClampNeg % 8 = dots + 1) (serves : Serves ppu slot stream) :
    Scanning stream entered (ppu.fetchBackground slot).tiles := by
  have number : ppu.background.nextTile = tileNumber stream.video ppu.scroll.sourceLine
      (stream.tile entered) := by
    rw [line]
    exact streaming.tile
  have still : dots ≠ 6 → ppu.scroll.sourceTile = stream.tile (entered + 1) := by
    intro early
    rw [tile, stream.tile_succ (by omega)]
  have cases : dots = 0 ∨ dots = 1 ∨ dots = 2 ∨ dots = 3 ∨ dots = 4 ∨ dots = 5 ∨ dots = 6 := by
    omega
  rw [Ppu.fetchBackground, step]
  rcases cases with rfl | rfl | rfl | rfl | rfl | rfl | rfl
  · exact ⟨by rw [aligned]; exact streaming.wait rfl, line, still (by decide)⟩
  · have palette := serves.reads.tilePalette
    rw [line, tile] at palette
    refine ⟨?_, line, still (by decide)⟩
    rw [aligned]
    change Streaming _ _ _ { ppu.background with nextAttribute := _ }
    rw [palette]
    exact streaming.fetchPalette
  · exact ⟨by rw [aligned]; exact streaming.wait rfl, line, still (by decide)⟩
  · have low := serves.reads.tilePlane_low number
    rw [line, serves.control] at low
    refine ⟨?_, line, still (by decide)⟩
    rw [aligned]
    change Streaming _ _ _ { ppu.background with nextLow := _ }
    rw [low]
    exact streaming.fetchLow
  · exact ⟨by rw [aligned]; exact streaming.wait rfl, line, still (by decide)⟩
  · have high := serves.reads.tilePlane_high number
    rw [line, serves.control] at high
    refine ⟨?_, line, still (by decide)⟩
    rw [aligned]
    change Streaming _ _ _ { ppu.background with nextHigh := _ }
    rw [high]
    exact streaming.fetchHigh
  · have next := ppu.scroll.source_nextColumn
    have right : (stream.tile entered + 1) % 64 = stream.tile (entered + 1) := by
      rw [TileStream.tile, TileStream.tile]
      omega
    change Scanning stream entered (ppu.moveScroll Scroll.nextColumn).tiles
    rw [moveScroll_of_rendering serves.rendering]
    exact ⟨by rw [aligned]; exact streaming.wait rfl, next.2.trans line,
      next.1.trans (by rw [tile, right])⟩

/-- A dot on which a tile is loaded and the next one is asked for. -/
theorem tiles_fetchBackground_of_load (column : Nat) (step : (ppu.dot - 1).toNatClampNeg % 8 = 0)
    (line : ppu.scroll.sourceLine = stream.line) (tile : ppu.scroll.sourceTile = stream.tile column)
    (serves : Serves ppu slot stream) :
    (ppu.fetchBackground slot).tiles
      = ⟨{ ppu.background.load with nextTile := stream.number column }, ppu.scroll⟩ := by
  have number := serves.reads.tileNumber
  rw [line, tile] at number
  rw [Ppu.fetchBackground, step]
  exact congrArg (fun fetched => TileSide.mk { ppu.background.load with nextTile := fetched }
    ppu.scroll) number

/-- What a chip shows depends on what only the processor writes, and on the cartridge. -/
theorem Serves.of_held (serves : Serves ppu slot stream) {other : Ppu} {later : κ}
    (held : other.held = ppu.held)
    (character : CartridgeSide.readCharacter later = CartridgeSide.readCharacter slot)
    (mirroring : CartridgeSide.mirroring later = CartridgeSide.mirroring slot) :
    Serves other later stream := by
  have mask : other.mask = ppu.mask := congrArg Held.mask held
  have control : other.control = ppu.control := congrArg Held.control held
  exact ⟨by rw [mask]; exact serves.shown, control.trans serves.control,
    serves.reads.of_held held character mirroring⟩

/-- Shifting changes nothing about where the stream comes from. -/
theorem Serves.shiftPipelines (serves : Serves ppu slot stream) :
    Serves ppu.shiftPipelines slot stream :=
  serves.of_held (DotPhase.shiftPipelines.held ppu) rfl rfl

/-- The first dot of a stream. -/
theorem Scanning.begins (stream : TileStream) (here : StandsAt ppu place)
    (first : place % 341 = 321) (line : ppu.scroll.sourceLine = stream.line)
    (tile : ppu.scroll.sourceTile = stream.tile 0) (serves : Serves ppu slot stream) :
    Scanning stream 0 (ppu.runPipelines slot).tiles := by
  have step := here.shiftPipelines.toNatClampNeg_dot (by omega)
  have scroll := congrArg TileSide.scroll (tiles_shiftPipelines serves.shown)
  change ppu.shiftPipelines.scroll = _ at scroll
  rw [here.runPipelines_of_busy slot (by omega),
    tiles_fetchBackground_of_load 0 (by rw [step, first]) (by rw [scroll, line])
      (by rw [scroll, tile]) serves.shiftPipelines]
  exact ⟨Streaming.begins _, by rw [scroll, line],
    by rw [scroll, tile, stream.tile_succ (by decide)]⟩

/-- A dot on which the pipelines run moves the stream on by one column. -/
theorem Scanning.next (scanning : Scanning stream entered ppu.tiles) (here : StandsAt ppu place)
    (busy : 2 ≤ place % 341 ∧ place % 341 < 258 ∨ 321 ≤ place % 341 ∧ place % 341 < 338)
    (aligned : (place % 341 - 1) % 8 = (entered + 1) % 8) (serves : Serves ppu slot stream) :
    Scanning stream (entered + 1) (ppu.runPipelines slot).tiles := by
  obtain ⟨streaming, line, tile⟩ := scanning
  have step := here.shiftPipelines.toNatClampNeg_dot (by omega)
  have sides := tiles_shiftPipelines serves.shown
  have background : ppu.shiftPipelines.background = ppu.background.shift :=
    congrArg TileSide.background sides
  have scroll : ppu.shiftPipelines.scroll = ppu.scroll := congrArg TileSide.scroll sides
  rw [here.runPipelines_of_busy slot busy]
  by_cases full : entered % 8 = 7
  · rw [full] at streaming
    have loaded := streaming.load full
    rw [tiles_fetchBackground_of_load (entered + 1) (by omega) (by rw [scroll]; exact line)
      (by rw [scroll]; exact tile) serves.shiftPipelines, background]
    refine ⟨?_, by rw [scroll]; exact line, ?_⟩
    · rw [show (entered + 1) % 8 = 0 by omega]
      exact loaded
    · rw [scroll, stream.tile_succ (by omega)]
      exact tile
  · have shifted : Streaming stream (entered + 1) (entered % 8)
        ppu.shiftPipelines.background := by
      rw [background]
      exact streaming.shift full
    exact Scanning.fetch shifted (by rw [scroll]; exact line) (by rw [scroll]; exact tile)
      (by omega) (by omega) serves.shiftPipelines

end Dots

end Nes.Ppu
