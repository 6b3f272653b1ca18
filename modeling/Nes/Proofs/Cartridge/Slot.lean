import Nes.Proofs.Cartridge.Use
import Nes.Proofs.Ppu.Registers

/-!
# Cartridges in the slot

The picture chip does to the cartridge what the actions list, if there is a cartridge at all. So
after a dot or a write to a register the slot holds the cartridge of before after some actions
(`Cartridge.SlotUse`), and has kept whatever every action keeps.
-/
namespace Nes.Cartridge

/-- A slot that holds what another one has come to hold by actions on the cartridge. -/
def SlotUse (before after : Option Cartridge) : Prop :=
  ∃ actions, after = before.map (·.run actions)

namespace SlotUse

variable {first second third : Option Cartridge}

/-- A slot that is left alone holds what it held. -/
theorem refl (slot : Option Cartridge) : SlotUse slot slot := by
  refine ⟨[], ?_⟩
  cases slot <;> rfl

/-- Uses of a slot follow on each other. -/
theorem trans (use : SlotUse first second) (next : SlotUse second third) : SlotUse first third := by
  obtain ⟨actions, rfl⟩ := use
  obtain ⟨later, rfl⟩ := next
  refine ⟨actions ++ later, ?_⟩
  rw [Option.map_map]
  congr 1
  funext cartridge
  exact List.foldl_append.symm

/-- One action more. -/
theorem act (use : SlotUse first second) (action : Action) :
    SlotUse first (second.map (·.after action)) :=
  use.trans ⟨[action], rfl⟩

/-- What every action keeps of a cartridge holds of the used one, which is there. -/
theorem holds (use : SlotUse first second) {Holds : Cartridge → Prop} (kept : Kept Holds)
    {cartridge : Cartridge} (found : first = some cartridge) (now : Holds cartridge) :
    ∃ used, second = some used ∧ Holds used := by
  obtain ⟨actions, rfl⟩ := use
  rw [found]
  exact ⟨_, rfl, kept.run now actions⟩

/-- A dot at most tells the cartridge about a line. -/
theorem clock (use : SlotUse first second) (ppu : Ppu) :
    SlotUse first (ppu.clock second).slot := by
  rw [Ppu.DotPhase.clock_slot]
  split
  · exact use.act .countLine
  · exact use

/-- A write to a register at most writes character memory. -/
theorem writeRegister (use : SlotUse first second) (ppu : Ppu) (address : UInt16)
    (value : UInt8) : SlotUse first (ppu.writeRegister second address value).2 := by
  have seen : (CartridgeSide.writeCharacter second (ppu.scroll.raw &&& 0x3FFF) value).2
      = second.map (·.after (.writeCharacter (ppu.scroll.raw &&& 0x3FFF) value)) := by
    cases second <;> rfl
  rcases ppu.slot_writeRegister second address value with same | written
  · rw [same]
    exact use
  · rw [written, seen]
    exact use.act _

end SlotUse

/-- Whatever is in the slot has a property. -/
def InSlot (Holds : Cartridge → Prop) (slot : Option Cartridge) : Prop :=
  ∀ cartridge, slot = some cartridge → Holds cartridge

/-- What every action keeps of a cartridge is kept of whatever is in the slot. -/
theorem SlotUse.inSlot {first second : Option Cartridge} (use : SlotUse first second)
    {Holds : Cartridge → Prop} (kept : Kept Holds) (holds : InSlot Holds first) :
    InSlot Holds second := by
  obtain ⟨actions, rfl⟩ := use
  intro cartridge here
  obtain ⟨before, found, rfl⟩ := Option.map_eq_some_iff.1 here
  exact kept.run (holds before found) actions

namespace Kept

variable {Holds : Cartridge → Prop} (kept : Kept Holds) {slot : Option Cartridge}
  (holds : InSlot Holds slot)

include kept holds

/-- An action in the slot keeps the property. -/
theorem map (action : Action) : InSlot Holds (slot.map (·.after action)) :=
  ((SlotUse.refl slot).act action).inSlot kept holds

/-- So does a dot. -/
theorem clock (ppu : Ppu) : InSlot Holds (ppu.clock slot).slot :=
  ((SlotUse.refl slot).clock ppu).inSlot kept holds

/-- So does a write to a register. -/
theorem writeRegister (ppu : Ppu) (address : UInt16) (value : UInt8) :
    InSlot Holds (ppu.writeRegister slot address value).2 :=
  ((SlotUse.refl slot).writeRegister ppu address value).inSlot kept holds

end Kept

end Nes.Cartridge
