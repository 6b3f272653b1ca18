import Nes.Proofs.Console.Frame

/-!
# The foreground of a picture

On every line of the picture but the first the foreground is what sprite memory held at the end of
the line above; on the first line there is none. The former is a matter of the picture chip alone.
The latter is one of what came before: it holds in whatever a console does from a reset on
(`SinceReset.onCourse`), though not of a chip that was put in the middle of a frame by hand.
-/
namespace Nes.Console

/-- A console in a run from a reset. -/
inductive SinceReset : Console → Prop where
  /-- Any console is reset. -/
  | reset (console : Console) : SinceReset console.reset
  /-- Any cartridge is inserted, which ends in a reset. -/
  | insert (console : Console) (cartridge : Cartridge) : SinceReset (console.insert cartridge)
  /-- One tick. -/
  | tick {console : Console} (since : SinceReset console) : SinceReset console.tick
  /-- One frame, drawn or not. -/
  | runFrame {console : Console} (since : SinceReset console) (draw : Bool) :
    SinceReset (console.runFrame draw)
  /-- Buttons are pressed, or the bus is read or written. -/
  | act {console : Console} (since : SinceReset console) (action : Machine.Action) :
    SinceReset (console.mapMachine fun machine => (machine.act action).2)
  /-- The state of a reachable console is restored. -/
  | restore {console saved restored : Console} {bytes : List UInt8} (since : SinceReset console)
    (savedReachable : saved.Reachable) (stored : saved.machine.encode = .ok bytes)
    (read : console.restore bytes = .ok restored) : SinceReset restored

/-- The picture chip is on course from a reset on. -/
theorem SinceReset.onCourse {console : Console} (since : console.SinceReset) :
    console.chip.OnCourse := by
  induction since with
  | reset console => exact console.machine.onCourse_reset
  | insert console cartridge =>
    exact Machine.onCourse_reset ⟨console.machine.cpu, console.machine.bus.insert cartridge⟩
  | tick since ih => exact lasting_onCourse.tick ih
  | runFrame since draw ih => exact lasting_onCourse.runFrame ih draw
  | act since action ih => exact Machine.onCourse_act ih action
  | restore since savedReachable stored read =>
    exact lasting_onCourse.restore savedReachable savedReachable.onCourse stored read

open Ppu in
/-- On every line of the picture behind the first, the foreground of each dot is what the direct
look-up in sprite memory finds, whatever sprites and patterns the pipeline held before, as long as
sprites are shown, no register is accessed from the end of the line above on and the cartridge
answers reads of patterns in one way. From a reset on the first line of every picture has no
foreground. -/
theorem foreground_of_picture :
    (∀ (κ : Type) [CartridgeSide κ] (ppu : Ppu) (slot : κ) (line : Nat), line < 239 →
      ppu.line.toInt = line → ppu.dot = 257 →
      ppu.mask.showSprites = true → ppu.mask.showSpritesLeft = true →
      (∀ count < 341,
        CartridgeSide.readCharacter (ppu.clocked slot count).2
          = CartridgeSide.readCharacter slot) →
      ∀ x < 256,
        let composing := ppu.composingAfter slot (85 + x)
        composing.line.toInt = line + 1 ∧ composing.dot.toInt = x + 1 ∧
          composing.spriteForeground.1
            = foregroundAt (ppu.videoAt slot) ppu.control ppu.oam line x) ∧
    ∀ console : Console, console.SinceReset →
      let composing := console.chip.composing console.machine.bus.slot
      composing.line = 0 → composing.dot ≤ 256 → composing.spriteForeground.1 = .clear := by
  constructor
  · intro κ side ppu slot line visible there dot shown shownLeft steady x column
    exact spriteForeground_of_line ppu slot line visible there dot shown shownLeft steady x column
  · intro console since
    exact since.onCourse.foreground_of_first console.machine.bus.slot

/-- A chip behind the picture of line 3, with a sprite that lies behind the background and is
turned over, in front of 63 empty ones. -/
def turnedSprite : Ppu :=
  { Ppu.powerOn with
    line := 3, dot := 257, mask := ⟨0x14⟩
    oam := (((Memory.zeros 256).write 0 2).write 1 1).write 2 0x60 |>.write 3 10
    patterns := (MemoryPair.zeros 0x1000).write false 17 1 }

/-- The turned sprite is drawn in its first column, and the first dot of a console that was just
reset has no foreground. -/
theorem foreground_of_picture_turnedSprite :
    (turnedSprite.composingAfter (⟨.vertical, 0⟩ : OpenSlot) 95).spriteForeground.1
        = ⟨⟨4, 1⟩, false⟩ ∧
      let console := powerOn.reset
      (console.chip.composing console.machine.bus.slot).spriteForeground.1 = .clear := by
  obtain ⟨lines, first⟩ := foreground_of_picture
  constructor
  · have drawn := lines OpenSlot turnedSprite ⟨.vertical, 0⟩ 3 (by decide) rfl rfl rfl rfl
      (fun _ _ => rfl) 10 (by decide)
    have found : Ppu.foregroundAt (turnedSprite.videoAt (⟨.vertical, 0⟩ : OpenSlot))
        turnedSprite.control turnedSprite.oam 3 10 = ⟨⟨4, 1⟩, false⟩ := by
      decide +kernel
    exact drawn.2.2.trans found
  · exact first powerOn.reset (.reset _) (by decide +kernel) (by decide +kernel)

end Nes.Console
