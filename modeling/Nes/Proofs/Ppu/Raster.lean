import Nes.Proofs.Ppu.Grid
import Nes.Proofs.Ppu.Registers

/-!
# The raster

Where the picture chip stands, what its pipelines hold and whether the frame is drawn
(`Ppu.Raster`) can not be reached through its registers.
-/
namespace Nes.Ppu

/-- What no access to the picture chip reaches. -/
structure Raster where
  /-- The place in the frame. -/
  grid : Grid
  /-- The background pipeline. -/
  background : Background
  /-- The sprite pipeline. -/
  sprites : Sprites
  /-- The choice whether to draw. -/
  drawsFrame : Bool

/-- What no access reaches. -/
def raster (ppu : Ppu) : Raster := ⟨ppu.grid, ppu.background, ppu.sprites, ppu.drawsFrame⟩

/-- The choice whether to draw is a part of the raster. -/
theorem drawsFrame_of_raster {ppu other : Ppu} (same : other.raster = ppu.raster) :
    other.drawsFrame = ppu.drawsFrame :=
  congrArg Raster.drawsFrame same

variable {κ : Type} [CartridgeSide κ] (ppu : Ppu) (slot : κ) (address : UInt16)

/-- A read of a register does not reach the raster. -/
theorem raster_readRegister : (ppu.readRegister slot address).2.raster = ppu.raster := by
  rw [readRegister]
  split <;> rfl

/-- A write of video memory does not reach the raster. -/
theorem raster_writeVideo (value : UInt8) :
    (ppu.writeVideo slot address value).1.raster = ppu.raster := by
  simp only [writeVideo]
  split
  · rfl
  split
  · rfl
  split <;> rfl

/-- A write of a register does not reach the raster. -/
theorem raster_writeRegister (value : UInt8) :
    (ppu.writeRegister slot address value).1.raster = ppu.raster := by
  rw [writeRegister]
  split
  case h_6 =>
    rw [writeScroll]
    dsimp only
    split <;> rfl
  case h_7 =>
    rw [writeAddress]
    split <;> rfl
  case h_8 => exact ppu.raster_writeVideo slot ppu.scroll.raw value
  all_goals rfl

end Nes.Ppu
