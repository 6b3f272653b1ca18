import Nes.Proofs.Cartridge.Use
import Nes.Proofs.Memory.Indexed
import Nes.Proofs.Ppu.Registers

/-!
# Video memory under changing mirroring

The chip has cells of its own behind the addresses of video memory: 8192 of the pattern tables, 2048
of the nametables and 32 of the palettes. Which cell of the nametables an address stands for depends
on the mirroring, which the cartridge may change at any time. What carries the proofs is that every
access is an access to one cell (`Ppu.readVideo_eq`, `Ppu.writeVideo_eq`), the one that the address
stands for under the mirroring of that moment. From there a read gives back the last byte that was
stored in its cell, whatever addresses and mirrorings led to the cell (`Ppu.readVideo_of_history`).
-/
namespace Nes

/-- No board translates a read above the pattern tables. -/
theorem Board.characterRead_of_above (board : Board) {address : UInt16}
    (above : ¬address < 0x2000) : board.characterRead address = none := by
  have outside : ¬inCharacterSpace address = true := by simpa [inCharacterSpace] using above
  cases board <;> exact if_neg outside

/-- No board takes a write above the pattern tables. -/
theorem Board.characterWrite_of_above (board : Board) {address : UInt16}
    (above : ¬address < 0x2000) : board.characterWrite address = none := by
  have refused (banks : BankCounts) : banks.writableCharacter address = none :=
    if_neg fun both => above both.1
  cases board
  case cnrom | gxrom => rfl
  all_goals exact refused _

namespace CartridgeSide

variable (slot : Option Cartridge) {address : UInt16}

/-- A cartridge claims no read above the pattern tables. -/
theorem readCharacter_of_above (above : ¬address < 0x2000) :
    readCharacter slot address = none := by
  cases slot with
  | none => rfl
  | some cartridge =>
    change (cartridge.board.characterRead address).map _ = none
    rw [Board.characterRead_of_above _ above]
    rfl

/-- A cartridge neither claims a write above the pattern tables nor changes by it. -/
theorem writeCharacter_of_above (above : ¬address < 0x2000) (value : UInt8) :
    writeCharacter slot address value = (false, slot) := by
  cases slot with
  | none => rfl
  | some cartridge =>
    have refused : cartridge.writeCharacter address value = (false, cartridge) := by
      rw [Cartridge.writeCharacter, Board.characterWrite_of_above _ above]
    change ((cartridge.writeCharacter address value).1,
      some (cartridge.writeCharacter address value).2) = _
    rw [refused]

variable (address)

/-- A write of character memory leaves the mirroring alone. -/
theorem mirroring_writeCharacter (value : UInt8) :
    mirroring (writeCharacter slot address value).2 = mirroring slot := by
  cases slot with
  | none => rfl
  | some cartridge =>
    have board := cartridge.board_writeCharacter address value
    have wiring : (cartridge.writeCharacter address value).2.wiring = cartridge.wiring :=
      congrArg Cartridge.Make.wiring (cartridge.make_writeCharacter address value)
    change (cartridge.writeCharacter address value).2.mirroring = cartridge.mirroring
    rw [Cartridge.mirroring, board, wiring]
    rfl

end CartridgeSide

/-- The physical nametables behind the four logical ones, which lie left to right and top to
bottom. -/
def Mirroring.tables : Mirroring → Vector (Fin 2) 4
  | vertical => #v[0, 1, 0, 1]
  | horizontal => #v[0, 0, 1, 1]
  | oneScreenLow => #v[0, 0, 0, 0]
  | oneScreenHigh => #v[1, 1, 1, 1]

namespace Ppu

/-- The parts of video memory. -/
inductive Region where
  /-- The pattern tables, from `0000`. -/
  | patterns
  /-- The nametables, from `2000`. -/
  | nametables
  /-- The palettes, from `3F00`. -/
  | palettes
deriving DecidableEq

/-- The physical cells of video memory that the chip itself has. -/
inductive Cell where
  /-- A byte of the pattern tables. -/
  | pattern (place : Fin 0x2000)
  /-- A byte of one of the two nametables. -/
  | nametable (table : Fin 2) (place : Fin 0x400)
  /-- A byte of the palettes. -/
  | palette (entry : Fin 32)
deriving DecidableEq

/-- The part of video memory that an address lies in. The chip sees fourteen lines of it. -/
def regionOf (address : UInt16) : Region :=
  let place := address.toNat % 0x4000
  if place < 0x2000 then .patterns else if place < 0x3F00 then .nametables else .palettes

/-- The palette entry of an index. The first entries of the sprite palettes are those of the
background palettes. -/
def paletteEntry : Fin 32 → Fin 32
  | 0x10 => 0x00
  | 0x14 => 0x04
  | 0x18 => 0x08
  | 0x1C => 0x0C
  | index => index

/-- The cell that an address stands for under a mirroring. The nametables repeat every `1000`. -/
def cellOf (mirroring : Mirroring) (address : UInt16) : Cell :=
  let place := address.toNat % 0x4000
  match regionOf address with
  | .patterns => .pattern (.ofNat _ place)
  | .nametables =>
    .nametable (mirroring.tables.get (.ofNat _ (place % 0x1000 / 0x400))) (.ofNat _ place)
  | .palettes => .palette (paletteEntry (.ofNat _ place))

/-- The part of video memory that a cell belongs to. -/
def Cell.region : Cell → Region
  | pattern _ => .patterns
  | nametable _ _ => .nametables
  | palette _ => .palettes

/-- The byte in a cell. -/
def contents (ppu : Ppu) : Cell → UInt8
  | .pattern place => ppu.patterns.read (0x1000 ≤ place.val) place
  | .nametable table place => ppu.nametables.read (table = 1) place
  | .palette entry => ppu.palette.read entry

/-- The chip with another byte in a cell. -/
def put (ppu : Ppu) (value : UInt8) : Cell → Ppu
  | .pattern place =>
    { ppu with patterns := ppu.patterns.write (0x1000 ≤ place.val) place value }
  | .nametable table place =>
    { ppu with nametables := ppu.nametables.write (table = 1) place value }
  | .palette entry => { ppu with palette := ppu.palette.write entry value }

/-- The bits of a byte that a read of a region shows. Palette bytes have six bits, of which only two
are left without colours. -/
def shownBits (ppu : Ppu) : Region → UInt8
  | .palettes => if ppu.mask.greyscale then 0x30 else 0x3F
  | _ => 0xFF

section Cells

variable (ppu : Ppu) (value : UInt8)

/-- A byte that is put into a cell is in it. -/
theorem contents_put_self (cell : Cell) : (ppu.put value cell).contents cell = value := by
  cases cell
  case pattern place => exact ppu.patterns.read_write_of_same_cell _ value rfl
  case nametable table place => exact ppu.nametables.read_write_of_same_cell _ value rfl
  case palette entry => exact ppu.palette.read_write_of_same_cell value rfl

/-- A store leaves every other cell as it was. -/
theorem contents_put_of_ne {cell other : Cell} (apart : cell ≠ other) :
    (ppu.put value cell).contents other = ppu.contents other := by
  cases cell <;> cases other
  case pattern.pattern place other =>
    refine ppu.patterns.read_write_of_other_cell value fun half same => ?_
    have halves : 0x1000 ≤ place.val ↔ 0x1000 ≤ other.val := decide_eq_decide.1 half
    have differ : place.val ≠ other.val := fun equal => apart (congrArg _ (Fin.ext equal))
    omega
  case nametable.nametable table place otherTable other =>
    refine ppu.nametables.read_write_of_other_cell value fun picked same => ?_
    have tables : table = otherTable := by
      have either : table = 1 ↔ otherTable = 1 := decide_eq_decide.1 picked
      omega
    have places : place = other := by
      rw [Nat.mod_eq_of_lt place.isLt, Nat.mod_eq_of_lt other.isLt] at same
      exact Fin.ext same
    exact apart (by rw [tables, places])
  case palette.palette entry other =>
    refine ppu.palette.read_write_of_other_cell value fun same => ?_
    rw [Nat.mod_eq_of_lt entry.isLt, Nat.mod_eq_of_lt other.isLt] at same
    exact apart (congrArg _ (Fin.ext same))
  all_goals rfl

/-- A byte in a cell changes nothing about which bits are shown. -/
theorem shownBits_put (cell : Cell) (region : Region) :
    (ppu.put value cell).shownBits region = ppu.shownBits region := by
  cases cell <;> rfl

end Cells

section Addresses

variable (address : UInt16)

/-- The chip cuts an address to fourteen bits. -/
theorem toNat_cut : (address &&& 0x3FFF).toNat = address.toNat % 0x4000 :=
  toNat_and_low address (show (0x3FFF : UInt16).toNat = 2 ^ 14 - 1 from rfl)

/-- The chip compares the fourteen bits of an address that it sees. -/
theorem cut_lt_iff (bound : UInt16) :
    address &&& 0x3FFF < bound ↔ address.toNat % 0x4000 < bound.toNat := by
  rw [UInt16.lt_iff_toNat_lt, toNat_cut]

/-- The parts of video memory are told apart by two bounds. -/
theorem regionOf_eq : regionOf address =
    if address &&& 0x3FFF < 0x2000 then .patterns
    else if address &&& 0x3FFF < 0x3F00 then .nametables else .palettes := by
  simp only [regionOf, cut_lt_iff]
  rfl

/-- Only the addresses of the pattern tables lie where cartridges claim accesses. -/
theorem cut_lt_iff_regionOf : address &&& 0x3FFF < 0x2000 ↔ regionOf address = .patterns := by
  rw [regionOf_eq]
  split
  · simp [*]
  · split <;> simp [*]

/-- An address stands for a cell of the part that it lies in. -/
theorem region_cellOf (mirroring : Mirroring) :
    (cellOf mirroring address).region = regionOf address := by
  rw [cellOf]
  cases regionOf address <;> rfl

/-- The pattern table is picked by the place in both of them. -/
theorem wordBit_of_pattern {address : UInt16} (low : address.toNat < 0x2000) :
    wordBit address 12 = decide (0x1000 ≤ address.toNat) := by
  rw [wordBit, Nat.testBit_eq_decide_div_mod_eq, decide_eq_decide]
  omega

/-- The physical nametable is the one that the list of a mirroring has for the logical one. -/
theorem picksSecond_eq (mirroring : Mirroring) :
    mirroring.picksSecond address
      = decide (mirroring.tables.get (.ofNat _ (address.toNat % 0x1000 / 0x400)) = 1) := by
  have listed (quadrant : Fin 4) : decide (mirroring.tables.get quadrant = 1) =
      match mirroring with
      | .vertical => decide (quadrant.val % 2 = 1)
      | .horizontal => decide (quadrant.val / 2 = 1)
      | .oneScreenLow => false
      | .oneScreenHigh => true := by
    revert quadrant
    cases mirroring <;> decide
  rw [listed]
  cases mirroring
  case vertical | horizontal =>
    dsimp only
    rw [Mirroring.picksSecond, wordBit, Nat.testBit_eq_decide_div_mod_eq, decide_eq_decide,
      Fin.val_ofNat]
    omega
  all_goals rfl

/-- The folded index names the palette entry of an address. -/
theorem paletteIndex_eq : paletteIndex address = paletteEntry (.ofNat _ address.toNat) := by
  have folded : ∀ index : Fin 32, (if index.val % 4 = 0 then index.val % 16 else index.val)
      = paletteEntry index := by decide
  exact folded (.ofNat _ address.toNat)

end Addresses

section Access

variable (ppu : Ppu) (slot : Option Cartridge) (address : UInt16)

/-- A read that the cartridge does not claim shows the cell that the address stands for under the
mirroring in force. -/
theorem readVideo_eq :
    ppu.readVideo slot address
      = (CartridgeSide.readCharacter slot (address &&& 0x3FFF)).getD
          (ppu.contents (cellOf (CartridgeSide.mirroring slot) address)
            &&& ppu.shownBits (regionOf address)) := by
  have cut := toNat_cut address
  have region := regionOf_eq address
  rw [readVideo, cellOf, ← cut, region]
  generalize address &&& 0x3FFF = place at cut
  dsimp only
  rcases CartridgeSide.readCharacter slot place with _ | claimed
  · by_cases low : place < 0x2000
    · have bound : place.toNat < 0x2000 := UInt16.lt_iff_toNat_lt.1 low
      have own : place.toNat % 0x2000 = place.toNat := Nat.mod_eq_of_lt bound
      simp only [if_pos low, contents, shownBits, Fin.val_ofNat, own, wordBit_of_pattern bound]
      exact UInt8.and_neg_one.symm
    by_cases middle : place < 0x3F00
    · simp only [if_neg low, if_pos middle, contents, shownBits, Fin.val_ofNat, picksSecond_eq,
        MemoryPair.read_mod]
      exact UInt8.and_neg_one.symm
    · simp only [if_neg low, if_neg middle, contents, shownBits, paletteIndex_eq]
      rfl
  · rfl

/-- The cartridge claims no read above the pattern tables, so that the cell answers. -/
theorem readVideo_of_above {address : UInt16} (above : 0x2000 ≤ address.toNat % 0x4000) :
    ppu.readVideo slot address
      = ppu.contents (cellOf (CartridgeSide.mirroring slot) address)
          &&& ppu.shownBits (regionOf address) := by
  have unclaimed : ¬address &&& 0x3FFF < 0x2000 := by
    rw [cut_lt_iff]
    exact Nat.not_lt.2 above
  rw [readVideo_eq, CartridgeSide.readCharacter_of_above slot unclaimed]
  rfl

/-- A write that the cartridge does not claim stores into the cell that the address stands for under
the mirroring in force. -/
theorem writeVideo_eq (value : UInt8) :
    ppu.writeVideo slot address value
      = (if (CartridgeSide.writeCharacter slot (address &&& 0x3FFF) value).1 then ppu
          else ppu.put value (cellOf (CartridgeSide.mirroring slot) address),
        (CartridgeSide.writeCharacter slot (address &&& 0x3FFF) value).2) := by
  have cut := toNat_cut address
  have region := regionOf_eq address
  have mirroring := CartridgeSide.mirroring_writeCharacter slot (address &&& 0x3FFF) value
  rw [writeVideo, cellOf, ← cut, region, ← mirroring]
  generalize address &&& 0x3FFF = place at cut
  dsimp only
  rcases CartridgeSide.writeCharacter slot place value with ⟨_ | _, slot⟩
  · by_cases low : place < 0x2000
    · have bound : place.toNat < 0x2000 := UInt16.lt_iff_toNat_lt.1 low
      have own : place.toNat % 0x2000 = place.toNat := Nat.mod_eq_of_lt bound
      simp only [if_pos low, put, Fin.val_ofNat, own, wordBit_of_pattern bound]
      rfl
    by_cases middle : place < 0x3F00
    · simp only [if_neg low, if_pos middle, put, Fin.val_ofNat, picksSecond_eq,
        MemoryPair.write_mod]
      rfl
    · simp only [if_neg low, if_neg middle, put, paletteIndex_eq]
      rfl
  · rfl

/-- A write is without effect on the reads of the other parts. -/
theorem readVideo_writeVideo_of_apart {written address : UInt16} (value : UInt8)
    (apart : regionOf written ≠ regionOf address) :
    (ppu.writeVideo slot written value).1.readVideo (ppu.writeVideo slot written value).2 address
      = ppu.readVideo slot address := by
  have mirroring := CartridgeSide.mirroring_writeCharacter slot (written &&& 0x3FFF) value
  have claims :
      CartridgeSide.readCharacter
          (CartridgeSide.writeCharacter slot (written &&& 0x3FFF) value).2 (address &&& 0x3FFF)
        = CartridgeSide.readCharacter slot (address &&& 0x3FFF) := by
    by_cases low : address &&& 0x3FFF < 0x2000
    · have above : ¬written &&& 0x3FFF < 0x2000 := by
        rw [cut_lt_iff_regionOf] at low ⊢
        rwa [low] at apart
      rw [CartridgeSide.writeCharacter_of_above slot above]
    · rw [CartridgeSide.readCharacter_of_above _ low,
        CartridgeSide.readCharacter_of_above _ low]
  have cells :
      cellOf (CartridgeSide.mirroring slot) written
        ≠ cellOf (CartridgeSide.mirroring slot) address := by
    intro same
    rw [← region_cellOf written (CartridgeSide.mirroring slot), same, region_cellOf] at apart
    exact apart rfl
  rw [writeVideo_eq, readVideo_eq, readVideo_eq, claims, mirroring]
  dsimp only
  split
  · rfl
  · rw [contents_put_of_ne _ _ cells, shownBits_put]

end Access

/-- What happens to video memory and to what decides on its addresses. -/
inductive VideoAction where
  /-- A write. -/
  | write (address : UInt16) (value : UInt8)
  /-- A read, which leaves everything as it is. -/
  | read (address : UInt16)
  /-- The slot changes: its cartridge chooses another mirroring or other banks, or it goes and
  another one comes. -/
  | change (slot : Option Cartridge)
  /-- The mask register changes, which decides whether colours are shown. -/
  | shade (mask : Mask)

/-- The chip and the slot after an action. -/
def afterVideo : Ppu × Option Cartridge → VideoAction → Ppu × Option Cartridge
  | (ppu, slot), .write address value => ppu.writeVideo slot address value
  | chips, .read _ => chips
  | (ppu, _), .change slot => (ppu, slot)
  | (ppu, slot), .shade mask => ({ ppu with mask }, slot)

/-- The chip and the slot after actions in order. -/
def runVideo (chips : Ppu × Option Cartridge) (actions : List VideoAction) :
    Ppu × Option Cartridge :=
  actions.foldl afterVideo chips

/-- The store that an action makes on the chip, if the cartridge does not claim it: the cell that
its address stands for under the mirroring in force, and the byte. -/
def stores (slot : Option Cartridge) : VideoAction → List (Cell × UInt8)
  | .write address value =>
    if (CartridgeSide.writeCharacter slot (address &&& 0x3FFF) value).1 then []
    else [(cellOf (CartridgeSide.mirroring slot) address, value)]
  | _ => []

/-- The stores that actions make on the chip, the latest one first. -/
def storeLog (chips : Ppu × Option Cartridge) : List VideoAction → List (Cell × UInt8)
  | [] => []
  | action :: later => storeLog (afterVideo chips action) later ++ stores chips.2 action

section Histories

variable (chips : Ppu × Option Cartridge) (cell : Cell)

/-- An action leaves in a cell what it stores there, or what was there. -/
theorem contents_afterVideo (action : VideoAction) :
    (afterVideo chips action).1.contents cell
      = ((stores chips.2 action).lookup cell).getD (chips.1.contents cell) := by
  obtain ⟨ppu, slot⟩ := chips
  cases action
  case write address value =>
    simp only [afterVideo, writeVideo_eq, stores]
    split
    · rfl
    · by_cases same : cell = cellOf (CartridgeSide.mirroring slot) address
      · subst same
        rw [contents_put_self, List.lookup_cons_self, Option.getD_some]
      · rw [contents_put_of_ne _ _ (Ne.symm same), List.lookup_cons, beq_false_of_ne same]
        rfl
  all_goals rfl

/-- A cell holds what was stored in it last, or what was in it before all actions. -/
theorem contents_runVideo (actions : List VideoAction) :
    (runVideo chips actions).1.contents cell
      = ((storeLog chips actions).lookup cell).getD (chips.1.contents cell) := by
  induction actions generalizing chips with
  | nil => rfl
  | cons action later ih =>
    have after := ih (afterVideo chips action)
    rw [contents_afterVideo] at after
    rw [storeLog, List.lookup_append, Option.getD_or]
    exact after

/-- After any writes, reads and changes of the mirroring, a read of the nametables gives the byte
that was stored last in the cell that the address stands for now. Every write counts for the cell
that its address stood for at the time. The same is true of a read of the pattern tables that the
cartridge does not claim, and of a read of the palettes but for the bits that are not shown. A write
to one of the three parts is without effect on the reads of the others. -/
theorem readVideo_of_history (actions : List VideoAction) (address : UInt16) :
    let now := runVideo chips actions
    let cell := cellOf (CartridgeSide.mirroring now.2) address
    let latest := ((storeLog chips actions).lookup cell).getD (chips.1.contents cell)
    (match regionOf address with
      | .patterns => CartridgeSide.readCharacter now.2 (address &&& 0x3FFF) = none →
          now.1.readVideo now.2 address = latest
      | .nametables => now.1.readVideo now.2 address = latest
      | .palettes => now.1.readVideo now.2 address
          = latest &&& if now.1.mask.greyscale then 0x30 else 0x3F) ∧
    ∀ written value, regionOf written ≠ regionOf address →
      (now.1.writeVideo now.2 written value).1.readVideo
          (now.1.writeVideo now.2 written value).2 address
        = now.1.readVideo now.2 address := by
  intro now cell latest
  have held : now.1.contents cell = latest := contents_runVideo chips cell actions
  have shown := now.1.readVideo_eq now.2 address
  rw [held] at shown
  refine ⟨?_, fun written value apart => now.1.readVideo_writeVideo_of_apart now.2 value apart⟩
  have unclaimed : regionOf address ≠ .patterns →
      CartridgeSide.readCharacter now.2 (address &&& 0x3FFF) = none := fun other =>
    CartridgeSide.readCharacter_of_above now.2 (mt (cut_lt_iff_regionOf address).1 other)
  cases region : regionOf address
  case patterns =>
    intro free
    rw [shown, free, region]
    exact UInt8.and_neg_one
  case nametables =>
    rw [shown, unclaimed (by simp [region]), region]
    exact UInt8.and_neg_one
  case palettes =>
    rw [shown, unclaimed (by simp [region]), region]
    rfl

end Histories

/-- Under vertical mirroring `2405` is in the second nametable, under horizontal mirroring in the
first. From there on the byte in the second one is found at `3805`. -/
theorem readVideo_of_history_switched :
    let wired (wiring : Mirroring) : Option Cartridge := some { Cartridge.blank with wiring }
    let now := runVideo (powerOn, wired .vertical)
      [.write 0x2405 0x77, .change (wired .horizontal), .write 0x2405 0x11, .read 0x2405]
    now.1.readVideo now.2 0x3805 = 0x77 := by
  intro wired now
  exact (readVideo_of_history (powerOn, wired .vertical)
    [.write 0x2405 0x77, .change (wired .horizontal), .write 0x2405 0x11, .read 0x2405] 0x3805).1

end Ppu

end Nes
