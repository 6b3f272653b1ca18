import Nes.Ppu.ProcessorSide
import Nes.Proofs.Ppu.DotPhase

/-!
# What register accesses leave alone

A processor read of a register changes neither sprite memory nor the low bits of the status
register, and a write changes the cartridge at most by one write to character memory. No access
looks at the choice whether the frame is drawn.
-/
namespace Nes.Ppu

variable {κ : Type} [CartridgeSide κ] (ppu : Ppu) (slot : κ) (address : UInt16)

/-- A read of a register does not look at the choice whether to draw. -/
theorem readRegister_withDraws (draws : Bool) :
    (ppu.withDraws draws).readRegister slot address
      = ((ppu.readRegister slot address).1,
        (ppu.readRegister slot address).2.withDraws draws) := by
  simp only [readRegister]
  split <;> rfl

/-- A write of video memory does not look at the choice whether to draw. -/
theorem writeVideo_withDraws (value : UInt8) (draws : Bool) :
    (ppu.withDraws draws).writeVideo slot address value
      = ((ppu.writeVideo slot address value).1.withDraws draws,
        (ppu.writeVideo slot address value).2) := by
  simp only [writeVideo]
  split
  · rfl
  split
  · rfl
  split <;> rfl

/-- A write of a register does not look at the choice whether to draw. -/
theorem writeRegister_withDraws (value : UInt8) (draws : Bool) :
    (ppu.withDraws draws).writeRegister slot address value
      = ((ppu.writeRegister slot address value).1.withDraws draws,
        (ppu.writeRegister slot address value).2) := by
  have scrolled : Blind fun ppu => ppu.writeScroll value :=
    Blind.either (fun _ _ => Iff.rfl) (fun _ _ => rfl) fun _ _ => rfl
  have addressed : Blind fun ppu => ppu.writeAddress value :=
    Blind.either (fun _ _ => Iff.rfl) (fun _ _ => rfl) fun _ _ => rfl
  have stored := ppu.writeVideo_withDraws slot ppu.scroll.raw value draws
  simp only [writeRegister]
  split
  case h_6 => exact congrArg (·, slot) (scrolled ppu draws)
  case h_7 => exact congrArg (·, slot) (addressed ppu draws)
  case h_8 =>
    simp only [writeData]
    change ((((ppu.withDraws draws).writeVideo slot ppu.scroll.raw value).1.advanceAddress),
      ((ppu.withDraws draws).writeVideo slot ppu.scroll.raw value).2) = _
    rw [stored]
    rfl
  all_goals rfl

/-- A read of a register leaves sprite memory alone. -/
theorem oam_readRegister : (ppu.readRegister slot address).2.oam = ppu.oam := by
  rw [readRegister]
  split <;> rfl

/-- A read of a register leaves the low bits of the status alone. -/
theorem statusLow_readRegister :
    (ppu.readRegister slot address).2.status.low = ppu.status.low := by
  rw [readRegister]
  split <;> rfl

/-- A write of video memory leaves the status alone. -/
theorem status_writeVideo (value : UInt8) :
    (ppu.writeVideo slot address value).1.status = ppu.status := by
  simp only [writeVideo]
  split
  · rfl
  split
  · rfl
  split <;> rfl

/-- A write of a register leaves the status alone. -/
theorem status_writeRegister (value : UInt8) :
    (ppu.writeRegister slot address value).1.status = ppu.status := by
  rw [writeRegister]
  split
  case h_6 =>
    rw [writeScroll]
    dsimp only
    split <;> rfl
  case h_7 =>
    rw [writeAddress]
    split <;> rfl
  case h_8 => exact ppu.status_writeVideo slot ppu.scroll.raw value
  all_goals rfl

/-- A write of video memory changes the slot by one write to character memory. -/
theorem slot_writeVideo (value : UInt8) :
    (ppu.writeVideo slot address value).2
      = (CartridgeSide.writeCharacter slot (address &&& 0x3FFF) value).2 := by
  simp only [writeVideo]
  split
  · rfl
  split
  · rfl
  split <;> rfl

/-- A write leaves the slot alone or changes it by one write to character memory. -/
theorem slot_writeRegister (value : UInt8) :
    (ppu.writeRegister slot address value).2 = slot ∨
      (ppu.writeRegister slot address value).2
        = (CartridgeSide.writeCharacter slot (ppu.scroll.raw &&& 0x3FFF) value).2 := by
  rw [writeRegister]
  split
  case h_8 => exact .inr (ppu.slot_writeVideo slot ppu.scroll.raw value)
  all_goals exact .inl rfl

end Nes.Ppu
