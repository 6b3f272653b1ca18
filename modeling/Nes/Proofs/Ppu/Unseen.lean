import Nes.Ppu.Dot
import Nes.Ppu.ProcessorSide
import Nes.Proofs.Cartridge.Stored

/-!
# Changes of the cartridge slot that the picture chip does not see

The picture chip knows the cartridge slot by four operations only. A change of the slot that they
do not tell from no change (`Ppu.Unseen`) has no effect on a dot or on an access to a register:
chip, pixel and answer are the same, and the slot afterwards is the changed one. The label of a
cartridge is such a change.
-/
namespace Nes.Ppu

variable {κ κ' : Type} [CartridgeSide κ] [CartridgeSide κ']

/-- A change of the slot that the picture chip does not see. -/
structure Unseen (change : κ → κ') : Prop where
  /-- Reads are answered alike. -/
  readCharacter : ∀ slot address,
    CartridgeSide.readCharacter (change slot) address = CartridgeSide.readCharacter slot address
  /-- Writes are claimed alike, and leave the change in place. -/
  writeCharacter : ∀ slot address value,
    CartridgeSide.writeCharacter (change slot) address value
      = ((CartridgeSide.writeCharacter slot address value).1,
        change (CartridgeSide.writeCharacter slot address value).2)
  /-- The mirroring is one. -/
  mirroring : ∀ slot, CartridgeSide.mirroring (change slot) = CartridgeSide.mirroring slot
  /-- A line leaves the change in place. -/
  countLine : ∀ slot, CartridgeSide.countLine (change slot) = change (CartridgeSide.countLine slot)

namespace Unseen

variable {change : κ → κ'} (unseen : Unseen change) (ppu : Ppu) (slot : κ)

include unseen

/-- A read of video memory does not see the change. -/
theorem readVideo (address : UInt16) :
    ppu.readVideo (change slot) address = ppu.readVideo slot address := by
  simp only [Ppu.readVideo, unseen.readCharacter, unseen.mirroring]

/-- A write of video memory does not see the change and keeps it. -/
theorem writeVideo (address : UInt16) (value : UInt8) :
    ppu.writeVideo (change slot) address value
      = ((ppu.writeVideo slot address value).1, change (ppu.writeVideo slot address value).2) := by
  simp only [Ppu.writeVideo, unseen.writeCharacter, unseen.mirroring]
  split
  · rfl
  split
  · rfl
  split <;> rfl

/-- The fetch of a tile does not see the change. -/
theorem fetchTile : ppu.fetchTile (change slot) = ppu.fetchTile slot := by
  simp only [Ppu.fetchTile, unseen.readVideo]

/-- The steps of the background pipeline do not see the change. -/
theorem fetchBackground : ppu.fetchBackground (change slot) = ppu.fetchBackground slot := by
  simp only [Ppu.fetchBackground, unseen.fetchTile, fetchAttribute, fetchLow, fetchHigh,
    unseen.readVideo]

/-- Shifting and fetching do not see the change. -/
theorem runPipelines : ppu.runPipelines (change slot) = ppu.runPipelines slot := by
  simp only [Ppu.runPipelines, unseen.fetchBackground]

/-- The ends of a line do not see the change. -/
theorem moveToNextLine : ppu.moveToNextLine (change slot) = ppu.moveToNextLine slot := by
  simp only [Ppu.moveToNextLine, unseen.fetchTile]

/-- Selecting and fetching sprites do not see the change. -/
theorem runSprites : ppu.runSprites (change slot) = ppu.runSprites slot := by
  simp only [Ppu.runSprites, fetchSprites, spritePlane, unseen.readVideo]

/-- The work of a dot does not see the change. -/
theorem renderDot : ppu.renderDot (change slot) = ppu.renderDot slot := by
  simp only [Ppu.renderDot, unseen.runPipelines, unseen.moveToNextLine, unseen.runSprites]

/-- A pixel is the same with the change and without. -/
theorem makePixel : ppu.makePixel (change slot) = ppu.makePixel slot := by
  simp only [Ppu.makePixel, screenColor, unseen.readVideo]

/-- A dot has one effect on the chip, makes one pixel and leaves the change in place. -/
theorem clock :
    ppu.clock (change slot)
      = ⟨(ppu.clock slot).ppu, change (ppu.clock slot).slot, (ppu.clock slot).pixel⟩ := by
  simp only [Ppu.clock, unseen.renderDot, unseen.makePixel, unseen.countLine, apply_ite change]

/-- A read of a register does not see the change. -/
theorem readRegister (address : UInt16) :
    ppu.readRegister (change slot) address = ppu.readRegister slot address := by
  simp only [Ppu.readRegister, readData, unseen.readVideo]

/-- A write of a register does not see the change and keeps it. -/
theorem writeRegister (address : UInt16) (value : UInt8) :
    ppu.writeRegister (change slot) address value
      = ((ppu.writeRegister slot address value).1,
        change (ppu.writeRegister slot address value).2) := by
  simp only [Ppu.writeRegister, writeData, unseen.writeVideo]
  split <;> rfl

end Unseen

/-- The slot with its cartridge under another label. -/
def relabel (label : Cartridge.Label) (slot : Option Cartridge) : Option Cartridge :=
  slot.map (·.withLabel label)

/-- The picture chip does not see a label. -/
theorem unseen_relabel (label : Cartridge.Label) : Unseen (relabel label) where
  readCharacter slot address := by
    cases slot <;> rfl
  writeCharacter slot address value := by
    cases slot with
    | none => rfl
    | some cartridge =>
      have written := cartridge.writeCharacter_withLabel label address value
      simp only [CartridgeSide.writeCharacter, relabel, Option.map_some, written]
  mirroring slot := by
    cases slot <;> rfl
  countLine slot := by
    cases slot <;> rfl

end Nes.Ppu
