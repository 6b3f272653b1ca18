import Nes.Ppu.ProcessorSide
import Nes.Proofs.Cartridge.Indexed

/-!
# Indexes into the memories of the picture chip

Addresses of video memory are cut to fourteen bits, and from there masks and shifts lead to a
pattern table, a nametable or a palette byte. A palette byte names one of 64 colours by six of its
bits. Sprite memory has as many cells as a byte has values. None of this depends on a state that
the chip keeps, so the accesses here succeed on any chip.
-/
namespace Nes.Ppu

open Cartridge (slotIndexedRead slotIndexedWrite slotIndexedRead_eq slotIndexedWrite_eq)

/-- The index of the pattern table that an address reaches. -/
def patternTable (address : UInt16) : Nat := (address >>> 12).toNat

/-- The index of the physical nametable that an address reaches. -/
def nametableTable (mirroring : Mirroring) (address : UInt16) : Nat :=
  let quadrant := ((address &&& 0x0FFF) >>> 10).toNat
  match mirroring with
  | .vertical => quadrant &&& 1
  | .horizontal => quadrant >>> 1
  | .oneScreenLow => 0
  | .oneScreenHigh => 1

/-- The index of the palette byte that an address reaches. -/
def paletteCell (address : UInt16) : Nat :=
  let index := (address &&& 0x1F).toNat
  if index &&& 0x13 = 0x10 then index &&& 0x0F else index

section Indexes

variable (address : UInt16)

/-- There are two pattern tables. -/
theorem patternTable_eq {address : UInt16} (low : address < 0x2000) :
    patternTable address = (wordBit address 12).toNat := by
  have bound : address.toNat < 0x2000 := UInt16.lt_iff_toNat_lt.1 low
  rw [patternTable, toNat_shiftRight_window _ (by decide), wordBit, Nat.toNat_testBit]
  change address.toNat / 4096 = address.toNat / 4096 % 2
  omega

/-- An address has a cell in a pattern table by its twelve low bits. -/
theorem patternCell_eq : (address &&& 0x0FFF).toNat = address.toNat % 0x1000 :=
  toNat_and_low address (show (0x0FFF : UInt16).toNat = 2 ^ 12 - 1 from rfl)

/-- There are two nametables. -/
theorem nametableTable_eq (mirroring : Mirroring) :
    nametableTable mirroring address = (mirroring.picksSecond address).toNat := by
  have quadrant : ((address &&& 0x0FFF) >>> 10).toNat = address.toNat / 1024 % 4 := by
    rw [toNat_shiftRight_window _ (by decide), patternCell_eq]
    change address.toNat % 4096 / 1024 = _
    omega
  cases mirroring
  case vertical =>
    simp only [nametableTable, quadrant, Mirroring.picksSecond, wordBit, Nat.toNat_testBit,
      Nat.and_one_is_mod]
    omega
  case horizontal =>
    simp only [nametableTable, quadrant, Mirroring.picksSecond, wordBit, Nat.toNat_testBit,
      Nat.shiftRight_eq_div_pow]
    omega
  all_goals rfl

/-- An address has a cell in a nametable by its ten low bits. -/
theorem nametableCell_eq : (address &&& 0x03FF).toNat = address.toNat % 0x0400 :=
  toNat_and_low address (show (0x03FF : UInt16).toNat = 2 ^ 10 - 1 from rfl)

/-- Of each pair of indexes with one byte the lower one is taken. -/
theorem paletteCell_eq : paletteCell address = paletteIndex address := by
  have folded : ∀ index < 32, (if index &&& 0x13 = 0x10 then index &&& 0x0F else index)
      = if index % 4 = 0 then index % 16 else index := by decide
  have inside : address.toNat % 32 < 32 := Nat.mod_lt _ (by decide)
  have cut : (address &&& 0x1F).toNat = address.toNat % 32 :=
    toNat_and_low address (show (0x1F : UInt16).toNat = 2 ^ 5 - 1 from rfl)
  rw [paletteCell, cut]
  exact folded _ inside

/-- The palettes have 32 bytes. -/
theorem paletteIndex_lt : paletteIndex address < 32 := by
  rw [paletteIndex]
  split <;> omega

end Indexes

/-- Read video memory. -/
def indexedReadVideo (ppu : Ppu) (slot : Option Cartridge) (address : UInt16) : Option UInt8 := do
  let address := address &&& 0x3FFF
  match ← slotIndexedRead slot address with
  | some value => return value
  | none =>
    if address < 0x2000 then
      ppu.patterns.get? (patternTable address) (address &&& 0x0FFF).toNat
    else if address < 0x3F00 then
      let table := nametableTable (CartridgeSide.mirroring slot) address
      ppu.nametables.get? table (address &&& 0x03FF).toNat
    else
      let shown : UInt8 := if ppu.mask.greyscale then 0x30 else 0x3F
      let entry ← ppu.palette.get? (paletteCell address)
      return entry &&& shown

/-- Write video memory. -/
def indexedWriteVideo (ppu : Ppu) (slot : Option Cartridge) (address : UInt16) (value : UInt8) :
    Option (Ppu × Option Cartridge) := do
  let address := address &&& 0x3FFF
  let (claimed, slot) ← slotIndexedWrite slot address value
  if claimed then return (ppu, slot)
  else if address < 0x2000 then
    let patterns ← ppu.patterns.set? (patternTable address) (address &&& 0x0FFF).toNat value
    return ({ ppu with patterns }, slot)
  else if address < 0x3F00 then
    let table := nametableTable (CartridgeSide.mirroring slot) address
    let nametables ← ppu.nametables.set? table (address &&& 0x03FF).toNat value
    return ({ ppu with nametables }, slot)
  else
    let palette ← ppu.palette.set? (paletteCell address) value
    return ({ ppu with palette }, slot)

/-- The colour on the screen of a palette and a colour within it. -/
def indexedScreenColor (ppu : Ppu) (slot : Option Cartridge) (candidate : Candidate) :
    Option Color := do
  let place : UInt16 := candidate.palette.toUInt16 <<< 2
  let entry ← ppu.indexedReadVideo slot (0x3F00 + place + candidate.color.toUInt16)
  Color.standard[(entry &&& 0x3F).toNat]?

section Video

variable (ppu : Ppu) (slot : Option Cartridge)

/-- A read of video memory finds its byte at every address. -/
theorem indexedReadVideo_eq (address : UInt16) :
    ppu.indexedReadVideo slot address = some (ppu.readVideo slot address) := by
  rw [indexedReadVideo, readVideo]
  generalize address &&& 0x3FFF = address
  dsimp only
  rw [slotIndexedRead_eq, Option.bind_eq_bind, Option.bind_some]
  rcases CartridgeSide.readCharacter slot address with _ | value
  · by_cases pattern : address < 0x2000
    · simp only [if_pos pattern, patternTable_eq pattern, patternCell_eq]
      exact ppu.patterns.get?_mod _ _
    by_cases nametable : address < 0x3F00
    · simp only [if_neg pattern, if_pos nametable, nametableTable_eq, nametableCell_eq]
      exact ppu.nametables.get?_mod _ _
    · simp only [if_neg pattern, if_neg nametable, paletteCell_eq,
        ppu.palette.get?_eq (paletteIndex_lt address)]
      rfl
  · rfl

/-- A write of video memory finds its cell at every address. -/
theorem indexedWriteVideo_eq (address : UInt16) (value : UInt8) :
    ppu.indexedWriteVideo slot address value = some (ppu.writeVideo slot address value) := by
  rw [indexedWriteVideo, writeVideo]
  generalize address &&& 0x3FFF = address
  dsimp only
  rw [slotIndexedWrite_eq, Option.bind_eq_bind, Option.bind_some]
  rcases CartridgeSide.writeCharacter slot address value with ⟨_ | _, slot⟩
  · by_cases pattern : address < 0x2000
    · simp only [if_pos pattern, patternTable_eq pattern, patternCell_eq, MemoryPair.set?_mod]
      rfl
    by_cases nametable : address < 0x3F00
    · simp only [if_neg pattern, if_pos nametable, nametableTable_eq, nametableCell_eq,
        MemoryPair.set?_mod]
      rfl
    · simp only [if_neg pattern, if_neg nametable, paletteCell_eq,
        ppu.palette.set?_eq (paletteIndex_lt address)]
      rfl
  · rfl

/-- There are 64 colours. -/
theorem standard_of_entry (entry : UInt8) :
    Color.standard[(entry &&& 0x3F).toNat]? = some (Color.ofEntry entry) := by
  have cut : (entry &&& 0x3F).toNat = entry.toNat % 64 := by
    rw [UInt8.toNat_and]
    exact Nat.and_two_pow_sub_one_eq_mod _ 6
  rw [cut]
  exact Vector.getElem?_eq_getElem (Nat.mod_lt _ (by decide))

/-- The colours of all palette bytes are in the table. -/
theorem indexedScreenColor_eq (candidate : Candidate) :
    ppu.indexedScreenColor slot candidate = some (ppu.screenColor slot candidate) := by
  rw [indexedScreenColor, indexedReadVideo_eq, Option.bind_eq_bind, Option.bind_some]
  exact standard_of_entry _

end Video

/-- Store a byte in sprite memory. -/
def indexedStoreOam (ppu : Ppu) (index value : UInt8) : Option Ppu := do
  let oam ← ppu.oam.set? index.toNat value
  return { ppu with oam }

/-- Write sprite memory at its current address and go on. -/
def indexedWriteOamData (ppu : Ppu) (value : UInt8) : Option Ppu := do
  let stored ← ppu.indexedStoreOam ppu.oamAddress value
  return { stored with oamAddress := ppu.oamAddress + 1 }

/-- Every byte is an index into sprite memory. -/
theorem indexedStoreOam_eq (ppu : Ppu) (index value : UInt8) :
    ppu.indexedStoreOam index value = some (ppu.storeOam index value) := by
  rw [indexedStoreOam, ppu.oam.set?_eq index.toNat_lt]
  rfl

/-- A write through the register of sprite memory finds its cell. -/
theorem indexedWriteOamData_eq (ppu : Ppu) (value : UInt8) :
    ppu.indexedWriteOamData value = some (ppu.writeOamData value) := by
  rw [indexedWriteOamData, indexedStoreOam_eq]
  rfl

/-- Read video memory at the current address and go on. -/
def indexedReadData (ppu : Ppu) (slot : Option Cartridge) : Option (UInt8 × Ppu) := do
  let address := ppu.scroll.raw &&& 0x3FFF
  let fresh ← ppu.indexedReadVideo slot address
  let value := if address < 0x3F00 then ppu.readBuffer else fresh
  return (value, { ppu with readBuffer := fresh }.advanceAddress)

/-- Write video memory at the current address and go on. -/
def indexedWriteData (ppu : Ppu) (slot : Option Cartridge) (value : UInt8) :
    Option (Ppu × Option Cartridge) := do
  let (ppu, slot) ← ppu.indexedWriteVideo slot ppu.scroll.raw value
  return (ppu.advanceAddress, slot)

/-- A processor read of a register. Two of the registers give access to memory. -/
def indexedReadRegister (ppu : Ppu) (slot : Option Cartridge) (address : UInt16) :
    Option (UInt8 × Ppu) :=
  match address.toNat % 8 with
  | 4 => do
    let byte ← ppu.oam.get? ppu.oamAddress.toNat
    return (byte, ppu)
  | 7 => ppu.indexedReadData slot
  | _ => some (ppu.readRegister slot address)

/-- A processor write to a register. -/
def indexedWriteRegister (ppu : Ppu) (slot : Option Cartridge) (address : UInt16)
    (value : UInt8) : Option (Ppu × Option Cartridge) :=
  match address.toNat % 8 with
  | 4 => do
    let ppu ← ppu.indexedWriteOamData value
    return (ppu, slot)
  | 7 => ppu.indexedWriteData slot value
  | _ => some (ppu.writeRegister slot address value)

section Registers

variable (ppu : Ppu) (slot : Option Cartridge) (address : UInt16)

/-- A read of any register finds what it asks for. -/
theorem indexedReadRegister_eq :
    ppu.indexedReadRegister slot address = some (ppu.readRegister slot address) := by
  have data : ppu.indexedReadData slot = some (ppu.readData slot) := by
    rw [indexedReadData]
    dsimp only
    rw [indexedReadVideo_eq]
    rfl
  rw [indexedReadRegister]
  split
  case h_1 oam =>
    rw [ppu.oam.get?_eq ppu.oamAddress.toNat_lt]
    simp only [readRegister, oam]
    rfl
  case h_2 video => simp only [data, readRegister, video]
  case h_3 => rfl

/-- A write to any register finds what it sets. -/
theorem indexedWriteRegister_eq (value : UInt8) :
    ppu.indexedWriteRegister slot address value
      = some (ppu.writeRegister slot address value) := by
  have data : ppu.indexedWriteData slot value = some (ppu.writeData slot value) := by
    rw [indexedWriteData, indexedWriteVideo_eq]
    rfl
  rw [indexedWriteRegister]
  split
  case h_1 oam =>
    rw [indexedWriteOamData_eq]
    simp only [writeRegister, oam]
    rfl
  case h_2 video => simp only [data, writeRegister, video]
  case h_3 => rfl

end Registers

end Nes.Ppu
