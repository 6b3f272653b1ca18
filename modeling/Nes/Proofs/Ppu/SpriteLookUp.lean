import Nes.Proofs.Ppu.Nametables

/-!
# The sprites of a line

`foregroundAt` looks the foreground of a dot up directly in sprite memory: among the first eight
sprites on the line, the first one that shows a colour in the column. The rest of the module takes
the chip's own words for the parts of this look-up to numbers: which entries are on a line, where
the pattern of a row is read, and which bit of it belongs to a column.
-/
namespace Nes.Ppu

namespace OamEntry

variable (entry : OamEntry) (video : Nat → UInt8) (control : Control) (line : Nat)

/-- Whether the sprite is drawn on the line below `line`. -/
def reaches (height : Nat) : Bool := entry.y.toNat ≤ line && line - entry.y.toNat < height

/-- The row of its picture that the sprite shows there. -/
def row : Nat :=
  let row := line - entry.y.toNat
  if entry.flipsVertically then control.spriteHeight - 1 - row else row

/-- The tile that a row of the picture is in, counted through both pattern tables. A tall sprite is
a pair of tiles, of the table that the low bit of the number picks. -/
def tileOf (row : Nat) : Nat :=
  if control.tallSprites then
    0x100 * (entry.tile.toNat % 2) + entry.tile.toNat / 2 * 2 + row / 8
  else (if control.spriteTable then 0x100 else 0) + entry.tile.toNat

/-- A plane of a row of the picture; there are two. -/
def planeOf (row plane : Nat) : UInt8 :=
  video (16 * entry.tileOf control row + row % 8 + 8 * plane)

/-- The colour in a column of the sprite on the line below `line`. -/
def colorAt (column : Nat) : UInt8 :=
  let row := entry.row control line
  let place := if entry.flipsHorizontally then column else 7 - column
  Background.pairOf (bit (entry.planeOf video control row 1) place)
    (bit (entry.planeOf video control row 0) place)

/-- Whether the sprite shows a colour in a column of the screen. -/
def shows (column : Nat) : Bool :=
  entry.x.toNat ≤ column && column < entry.x.toNat + 8
    && entry.colorAt video control line (column - entry.x.toNat) != 0

end OamEntry

/-- The sprites on the line below `line`: the first entries of sprite memory that reach it. -/
def spritesBelow (oam : Memory 256) (line height : Nat) : List OamEntry :=
  ((OamEntry.all oam).filter fun entry => entry.reaches line height).take spritesPerLine

/-- The foreground in a column of the line below `line`. -/
def foregroundAt (video : Nat → UInt8) (control : Control) (oam : Memory 256) (line column : Nat) :
    Foreground :=
  match (spritesBelow oam line control.spriteHeight).find? (·.shows video control line column) with
  | none => .clear
  | some entry =>
    ⟨⟨entry.palette, entry.colorAt video control line (column - entry.x.toNat)⟩, !entry.liesBehind⟩

namespace OamEntry

variable (entry : OamEntry) {line : Int16} {number : Nat} (same : line.toInt = number)

include same

/-- The chip compares signed lines, and finds the rows that the numbers say. -/
theorem covers_eq (height : Nat) : entry.covers line height = entry.reaches number height := by
  simp only [covers, reaches, same]
  rw [Bool.eq_iff_iff]
  simp only [Bool.and_eq_true, decide_eq_true_iff]
  omega

end OamEntry

/-- The chip selects the sprites of the line below. -/
theorem take_onLine (oam : Memory 256) {line : Int16} {number : Nat} (same : line.toInt = number)
    (height : Nat) :
    (Sprites.onLine oam line height).take spritesPerLine = spritesBelow oam number height := by
  rw [Sprites.onLine, spritesBelow]
  congr 1
  exact List.filter_congr fun entry _ => entry.covers_eq same height

namespace OamEntry

variable (entry : OamEntry) (control : Control) {line : Int16} {number : Nat}

/-- The row as the chip counts it. -/
theorem toNat_row (same : line.toInt = number) (reached : entry.y.toNat ≤ number) :
    ((line - entry.y.toUInt16.toInt16).toUInt16).toNat = number - entry.y.toNat := by
  have positive : 0 ≤ line := by
    rw [Int16.le_iff_toInt_le, same]
    exact Int.natCast_nonneg _
  have here : line.toUInt16.toNat = number := by
    rw [Int16.toNat_toUInt16_of_le positive, Int16.toNatClampNeg, same, Int.toNat_natCast]
  rw [Int16.toUInt16_sub, UInt16.toUInt16_toInt16, UInt16.toNat_sub_of_le, here,
    UInt8.toNat_toUInt16]
  rw [UInt16.le_iff_toNat_le, here, UInt8.toNat_toUInt16]
  exact reached

/-- The parts of an address in the pattern tables share no bits. -/
theorem toNat_parts {table tile fine : UInt16} {bank : Nat} (placed : table.toNat = 0x1000 * bank)
    (small : tile.toNat < 0x100) (low : fine.toNat < 8) :
    (table ||| tile <<< 4 ||| fine).toNat = 16 * (0x100 * bank + tile.toNat) + fine.toNat := by
  have shifted : (tile <<< 4).toNat = 16 * tile.toNat := by
    rw [UInt16.toNat_shiftLeft, Nat.shiftLeft_eq]
    change _ * 16 % 65536 = _
    omega
  have first := Nat.two_pow_add_eq_or_of_lt (i := 12) (b := 16 * tile.toNat) (by omega) bank
  have second := Nat.two_pow_add_eq_or_of_lt (i := 4) (b := fine.toNat) (by omega)
    (0x100 * bank + tile.toNat)
  have together : 2 ^ 12 * bank + 16 * tile.toNat = 2 ^ 4 * (0x100 * bank + tile.toNat) := by omega
  rw [UInt16.toNat_or, UInt16.toNat_or, placed, shifted]
  rw [← first, together, ← second]

/-- The line within a tile. -/
theorem toNat_fine (rowWord : UInt16) (upside : Bool) :
    (if upside then 7 - (rowWord &&& 7) else rowWord &&& 7).toNat
      = if upside then 7 - rowWord.toNat % 8 else rowWord.toNat % 8 := by
  have low : (rowWord &&& 7).toNat = rowWord.toNat % 8 := by
    rw [UInt16.toNat_and]
    exact Nat.and_two_pow_sub_one_eq_mod _ 3
  cases upside
  · exact low
  · have bound : rowWord.toNat % 8 < 8 := Nat.mod_lt _ (by decide)
    simp only [if_true]
    rw [UInt16.toNat_sub_of_le, low]
    · rfl
    · rw [UInt16.le_iff_toNat_le, low]
      exact Nat.le_of_lt_succ bound

/-- Of the pair of tiles of a tall sprite the upper one has the even number. -/
theorem toNat_pairTile (tile : UInt8) (upper : Bool) :
    (if upper then (tile &&& 0xFE).toUInt16 else (tile &&& 0xFE).toUInt16 + 1).toNat
      = tile.toNat / 2 * 2 + if upper then 0 else 1 := by
  have even : ∀ number < 256, number &&& 0xFE = number / 2 * 2 := by decide +kernel
  have bound := tile.toNat_lt
  have top : (tile &&& 0xFE).toUInt16.toNat = tile.toNat / 2 * 2 := by
    rw [UInt8.toNat_toUInt16, UInt8.toNat_and]
    exact even _ bound
  cases upper
  · change ((tile &&& 0xFE).toUInt16 + 1).toNat = _
    rw [UInt16.toNat_add, top]
    change (_ + 1) % 65536 = _ + 1
    omega
  · exact top

/-- The pattern of the row is read where the look-up reads it. -/
theorem toNat_patternAddress (same : line.toInt = number)
    (reached : entry.reaches number control.spriteHeight = true) :
    (entry.patternAddress control line).toNat
      = 16 * entry.tileOf control (entry.row control number) + entry.row control number % 8 := by
  rw [reaches, Bool.and_eq_true, decide_eq_true_iff, decide_eq_true_iff] at reached
  have count := entry.toNat_row same reached.1
  dsimp only [patternAddress]
  generalize (line - entry.y.toUInt16.toInt16).toUInt16 = rowWord at count ⊢
  have tileBound := entry.tile.toNat_lt
  have fine : (if entry.flipsVertically then 7 - (rowWord &&& 7) else rowWord &&& 7).toNat
      = entry.row control number % 8 := by
    have heights : control.spriteHeight = 16 ∨ control.spriteHeight = 8 := by
      rw [Control.spriteHeight]
      split <;> simp
    rw [toNat_fine, count, row]
    split <;> omega
  have low : entry.row control number % 8 < 8 := Nat.mod_lt _ (by decide)
  by_cases tall : control.tallSprites = true
  · have height : control.spriteHeight = 16 := if_pos tall
    have table : (if bit entry.tile 0 then 0x1000 else 0 : UInt16).toNat
        = 0x1000 * (entry.tile.toNat % 2) := by
      rw [bit, Nat.testBit_eq_decide_div_mod_eq, Nat.pow_zero, Nat.div_one]
      rcases Nat.mod_two_eq_zero_or_one entry.tile.toNat with even | odd
      · rw [even]
        rfl
      · rw [odd]
        rfl
    have pair : (if (decide (rowWord < 8) != entry.flipsVertically) = true then
        (entry.tile &&& 0xFE).toUInt16 else (entry.tile &&& 0xFE).toUInt16 + 1).toNat
        = entry.tile.toNat / 2 * 2 + entry.row control number / 8 := by
      have upper : rowWord < 8 ↔ number - entry.y.toNat < 8 := by
        rw [UInt16.lt_iff_toNat_lt, count]
        rfl
      rw [toNat_pairTile, row, height]
      simp only [upper]
      by_cases first : number - entry.y.toNat < 8 <;> cases entry.flipsVertically <;>
        simp [first] <;> omega
    have last : entry.row control number < 16 := by
      rw [row, height]
      split <;> omega
    rw [if_pos tall, toNat_parts table (by omega) (by omega), pair, fine, tileOf, if_pos tall,
      Nat.add_assoc]
  · have height : control.spriteHeight = 8 := if_neg tall
    have table : (if control.spriteTable then 0x1000 else 0 : UInt16).toNat
        = 0x1000 * control.spriteTable.toNat := by
      cases control.spriteTable <;> rfl
    have number : (if control.spriteTable then 0x100 else 0)
        = 0x100 * control.spriteTable.toNat := by
      cases control.spriteTable <;> rfl
    have small : entry.tile.toUInt16.toNat < 0x100 := by
      rw [UInt8.toNat_toUInt16]
      exact tileBound
    rw [if_neg tall, toNat_parts table small (by omega), fine, tileOf, if_neg tall, number,
      UInt8.toNat_toUInt16]

/-- The tile of a row that is reached is one of the 512 of both tables. -/
theorem tileOf_lt (reached : entry.reaches number control.spriteHeight = true) :
    entry.tileOf control (entry.row control number) < 0x200 := by
  rw [reaches, Bool.and_eq_true, decide_eq_true_iff, decide_eq_true_iff] at reached
  have bound := entry.tile.toNat_lt
  rw [tileOf]
  by_cases tall : control.tallSprites = true
  · have height : control.spriteHeight = 16 := if_pos tall
    have last : entry.row control number < 16 := by
      rw [row, height]
      split <;> omega
    rw [if_pos tall]
    omega
  · rw [if_neg tall]
    split <;> omega

end OamEntry

/-- A plane of the row on the line below `line` as it goes into a shift register. -/
def OamEntry.pattern (entry : OamEntry) (video : Nat → UInt8) (control : Control)
    (line plane : Nat) : UInt8 :=
  let byte := entry.planeOf video control (entry.row control line) plane
  if entry.flipsHorizontally then reverseBits byte else byte

/-- A plane leaves its shift register from the left. -/
theorem OamEntry.bit_pattern (entry : OamEntry) (video : Nat → UInt8) (control : Control)
    (line plane : Nat) {column : Nat} (inside : column < 8) :
    bit (entry.pattern video control line plane) (7 - column)
      = bit (entry.planeOf video control (entry.row control line) plane)
          (if entry.flipsHorizontally then column else 7 - column) := by
  have reversed : ∀ number < 256, ∀ index < 8,
      bit (reverseBits (UInt8.ofNat number)) (7 - index) = bit (UInt8.ofNat number) index := by
    decide +kernel
  rw [pattern]
  cases entry.flipsHorizontally
  · rfl
  · have here := reversed _ (entry.planeOf video control (entry.row control line) plane).toNat_lt
      column inside
    rwa [UInt8.ofNat_toNat] at here

section Patterns

variable {κ : Type} [CartridgeSide κ] {ppu : Ppu} {slot : κ} {video : Nat → UInt8}

/-- The chip reads the pattern tables from a map of addresses. -/
def ReadsPatterns (ppu : Ppu) (slot : κ) (video : Nat → UInt8) : Prop :=
  ∀ address, address.toNat < 0x2000 → ppu.readVideo slot address = video address.toNat

/-- What is read in the pattern tables depends on what only the processor writes, and on what the
cartridge reads. -/
theorem ReadsPatterns.of_held {other : Ppu} {later : κ} (held : other.held = ppu.held)
    (character : CartridgeSide.readCharacter later = CartridgeSide.readCharacter slot) :
    ReadsPatterns other later (ppu.videoAt slot) := by
  intro address inside
  have patterns : other.patterns = ppu.patterns := congrArg Held.patterns held
  have low : address &&& 0x3FFF < 0x2000 := by
    rw [UInt16.lt_iff_toNat_lt, UInt16.toNat_and]
    exact Nat.lt_of_le_of_lt Nat.and_le_left inside
  rw [← ppu.reads_videoAt slot]
  simp only [readVideo, character, if_pos low, patterns]

/-- Both planes of the row are fetched. -/
theorem ReadsPatterns.spritePlane (reads : ReadsPatterns ppu slot video) {entry : OamEntry}
    {number : Nat} (same : ppu.line.toInt = number)
    (reached : entry.reaches number ppu.control.spriteHeight = true) {offset : UInt16} {plane : Nat}
    (placed : offset.toNat = 8 * plane) (few : plane < 2) :
    ppu.spritePlane slot entry offset
      = entry.pattern video ppu.control number plane := by
  have base := entry.toNat_patternAddress ppu.control same reached
  have bound := entry.tileOf_lt ppu.control reached
  have address : (entry.patternAddress ppu.control ppu.line + offset).toNat
      = 16 * entry.tileOf ppu.control (entry.row ppu.control number)
          + entry.row ppu.control number % 8 + 8 * plane := by
    rw [UInt16.toNat_add, base, placed]
    change _ % 65536 = _
    omega
  rw [Ppu.spritePlane, reads _ (by omega), address]
  rfl

end Patterns

end Nes.Ppu
