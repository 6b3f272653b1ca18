import Nes.Cartridge.Basic

/-!
# The cartridge as the picture chip sees it

The picture chip offers every access to the cartridge slot first. What it needs from there is
small: character memory, the mirroring, and someone to tell about lines. A cartridge provides it,
a slot provides it whether or not it holds a cartridge, and an open slot with a mirroring of its
own provides it for work on the picture chip alone.
-/
namespace Nes

/-- What the picture chip needs from the cartridge slot. -/
class CartridgeSide (κ : Type) where
  /-- A read, if it is claimed. -/
  readCharacter : κ → UInt16 → Option UInt8
  /-- A write: whether it is claimed, and the slot after it. -/
  writeCharacter : κ → UInt16 → UInt8 → Bool × κ
  /-- The mirroring in force. -/
  mirroring : κ → Mirroring
  /-- A line of the picture has been drawn. -/
  countLine : κ → κ

instance : CartridgeSide Cartridge where
  readCharacter := Cartridge.readCharacter
  writeCharacter := Cartridge.writeCharacter
  mirroring := Cartridge.mirroring
  countLine := Cartridge.countLine

/-- An empty slot claims nothing and mirrors horizontally. -/
instance : CartridgeSide (Option Cartridge) where
  readCharacter slot address := slot.bind (·.readCharacter address)
  writeCharacter
    | none, _, _ => (false, none)
    | some cartridge, address, value =>
      let (claimed, cartridge) := cartridge.writeCharacter address value
      (claimed, some cartridge)
  mirroring
    | none => .horizontal
    | some cartridge => cartridge.mirroring
  countLine slot := slot.map Cartridge.countLine

/-- A slot that claims nothing, with a fixed mirroring and a count of lines. -/
structure OpenSlot where
  /-- The mirroring. -/
  mirroring : Mirroring
  /-- Lines drawn so far. -/
  lines : Nat
deriving DecidableEq

instance : CartridgeSide OpenSlot where
  readCharacter _ _ := none
  writeCharacter slot _ _ := (false, slot)
  mirroring := OpenSlot.mirroring
  countLine slot := { slot with lines := slot.lines + 1 }

end Nes
