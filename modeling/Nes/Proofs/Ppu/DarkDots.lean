import Nes.Proofs.Ppu.FrameTiming
import Nes.Proofs.Ppu.Nametables
import Nes.Proofs.Ppu.VideoHistory

/-!
# What runs of dots may touch

The chip goes through the work of a dot whether anything is shown or not, and each part of that work
has a guard of its own. What carries the proofs is that where nothing is shown every phase of a dot
leaves the scroll word alone and notes no hit (`RestsInDark`), from any place and with any contents
of the pipelines. The cartridge is touched by nothing but the word that a line has been drawn, which
changes its counter of lines only (`Cartridge.uncounted`).
-/
namespace Nes

/-- The board with its counter of lines and its request cleared, which are all that a line of the
picture changes. -/
def Board.uncounted : Board → Board
  | mmc3 board => mmc3 { board with irqCounter := 0, irqPending := false }
  | board => board

/-- The cartridge with the counter of its board cleared. -/
def Cartridge.uncounted (cartridge : Cartridge) : Cartridge := cartridge.mapBoard Board.uncounted

/-- A line of the picture changes no part of a board but its counter and its request. -/
theorem Board.uncounted_countLine (board : Board) :
    board.countLine.uncounted = board.uncounted := by
  cases board <;> rfl

/-- A line of the picture changes no part of a cartridge but the counter of its board. -/
theorem Cartridge.uncounted_countLine (cartridge : Cartridge) :
    cartridge.countLine.uncounted = cartridge.uncounted :=
  congrArg (fun board => { cartridge with board }) cartridge.board.uncounted_countLine

/-- Character memory is read as without the counter. -/
theorem Cartridge.readCharacter_uncounted (cartridge : Cartridge) :
    cartridge.uncounted.readCharacter = cartridge.readCharacter := by
  obtain ⟨board, program, character, boardNumber, banks, wiring, revision, path⟩ := cartridge
  cases board <;> rfl

namespace Ppu

variable {κ : Type} [CartridgeSide κ]

/-- Neither side is shown. -/
structure Dark (ppu : Ppu) : Prop where
  /-- The background is not shown. -/
  background : ppu.mask.showBackground = false
  /-- The sprites are not shown. -/
  sprites : ppu.mask.showSprites = false

/-- In the dark, rendering is off. -/
theorem Dark.rendering {ppu : Ppu} (dark : Dark ppu) : ppu.mask.rendering = false := by
  rw [Mask.rendering, dark.background, dark.sprites]
  rfl

/-- Between two states the scroll word stays, and no hit of sprite zero is noted. -/
structure Rests (before after : Ppu) : Prop where
  /-- What is shown stays the same. -/
  mask : after.mask = before.mask
  /-- The scroll word stays. -/
  scroll : after.scroll = before.scroll
  /-- A hit has been noted before. -/
  zeroHit : after.status.zeroHit = true → before.status.zeroHit = true

/-- A state rests at itself. -/
theorem Rests.refl (ppu : Ppu) : Rests ppu ppu := ⟨rfl, rfl, id⟩

/-- Rests follow on each other. -/
theorem Rests.trans {first second third : Ppu} (left : Rests first second)
    (right : Rests second third) : Rests first third :=
  ⟨right.mask.trans left.mask, right.scroll.trans left.scroll, left.zeroHit ∘ right.zeroHit⟩

/-- Where the chip rests it stays dark. -/
theorem Rests.dark {before after : Ppu} (rests : Rests before after) (dark : Dark before) :
    Dark after :=
  ⟨rests.mask ▸ dark.background, rests.mask ▸ dark.sprites⟩

/-- A phase of a dot that leaves the scroll word alone and notes no hit where nothing is shown. -/
def RestsInDark (phase : Ppu → Ppu) : Prop := ∀ ppu, Dark ppu → Rests ppu (phase ppu)

namespace RestsInDark

variable {first second phase : Ppu → Ppu}

/-- Phases that rest in the dark do so one after the other. -/
theorem andThen (left : RestsInDark first) (right : RestsInDark second) :
    RestsInDark fun ppu => second (first ppu) := fun ppu dark =>
  (left ppu dark).trans (right _ ((left ppu dark).dark dark))

/-- A phase that rests in the dark may be left out. -/
theorem when {condition : Ppu → Prop} [DecidablePred condition] (rests : RestsInDark phase) :
    RestsInDark fun ppu => if condition ppu then phase ppu else ppu := by
  intro ppu dark
  dsimp only
  split
  · exact rests ppu dark
  · exact .refl ppu

/-- Leaving out a dot is no move of the scroll word. -/
theorem leaveOutDot : RestsInDark leaveOutDot := when fun _ _ => ⟨rfl, rfl, id⟩

/-- Flags that are cleared note no hit. -/
theorem clearFlags : RestsInDark clearFlags := when fun _ _ => ⟨rfl, rfl, nofun⟩

/-- Shift registers move no scroll word. -/
theorem shiftPipelines : RestsInDark shiftPipelines := by
  intro ppu _
  rw [shiftPipelines_eq]
  exact ⟨rfl, rfl, id⟩

/-- The scroll word moves only where something is shown. -/
theorem moveScroll (change : Ppu → Scroll → Scroll) :
    RestsInDark fun ppu => ppu.moveScroll (change ppu) := by
  intro ppu dark
  dsimp only
  rw [Ppu.moveScroll, dark.rendering, if_neg Bool.false_ne_true]
  exact .refl ppu

/-- The latches of a tile are loaded, and nothing that rests is touched. -/
theorem loadBackground : RestsInDark loadBackground := fun _ _ => ⟨rfl, rfl, id⟩

/-- A tile is fetched in the dark too, and the scroll word stays. -/
theorem fetchTile (slot : κ) : RestsInDark (·.fetchTile slot) := fun _ _ => ⟨rfl, rfl, id⟩

/-- The steps to the next tile and to the next line wait for something to be shown. -/
theorem fetchBackground (slot : κ) : RestsInDark (·.fetchBackground slot) := by
  intro ppu dark
  have moved := moveScroll (fun _ => Scroll.nextColumn) ppu dark
  simp only [Ppu.fetchBackground]
  split
  case h_5 => exact moved
  all_goals exact ⟨rfl, rfl, id⟩

/-- Shifting and fetching leave the scroll word alone in the dark. -/
theorem runPipelines (slot : κ) : RestsInDark (·.runPipelines slot) :=
  when (shiftPipelines.andThen (fetchBackground slot))

/-- The ends of a line leave the scroll word alone in the dark. -/
theorem moveToNextLine (slot : κ) : RestsInDark (·.moveToNextLine slot) := by
  have down : RestsInDark fun ppu =>
      if ppu.dot == 256 then ppu.moveScroll Scroll.nextLine else ppu :=
    when (moveScroll fun _ => Scroll.nextLine)
  have copied := moveScroll fun ppu => (·.copyHorizontal ppu.nextScroll)
  have left : RestsInDark fun ppu =>
      if ppu.dot == 257 then ppu.loadBackground.moveScroll (·.copyHorizontal ppu.nextScroll)
      else ppu :=
    when (loadBackground.andThen copied)
  have unused : RestsInDark fun ppu =>
      if ppu.dot == 338 || ppu.dot == 340 then ppu.fetchTile slot else ppu :=
    when (fetchTile slot)
  have up : RestsInDark fun ppu =>
      if ppu.line == -1 && ppu.dotWithin 280 305 then
        ppu.moveScroll (·.copyVertical ppu.nextScroll)
      else ppu :=
    when (moveScroll fun ppu => (·.copyVertical ppu.nextScroll))
  exact ((down.andThen left).andThen unused).andThen up

/-- Selecting and fetching sprites notes no hit. -/
theorem runSprites (slot : κ) : RestsInDark (·.runSprites slot) := by
  have selected : RestsInDark fun ppu =>
      if ppu.dot == 257 && 0 ≤ ppu.line then ppu.selectSprites else ppu :=
    when fun _ _ => ⟨rfl, rfl, id⟩
  have fetched : RestsInDark fun ppu => if ppu.dot == 340 then ppu.fetchSprites slot else ppu :=
    when fun _ _ => ⟨rfl, rfl, id⟩
  exact selected.andThen fetched

/-- The work of a dot leaves the scroll word alone in the dark. -/
theorem renderDot (slot : κ) : RestsInDark (·.renderDot slot) := by
  have cleared := leaveOutDot.andThen clearFlags
  have fetched := cleared.andThen (runPipelines slot)
  have moved := fetched.andThen (moveToNextLine slot)
  have ended := moved.andThen (runSprites slot)
  exact ended

/-- The beginning of the blank is no hit. -/
theorem beginBlank : RestsInDark beginBlank := when fun _ _ => ⟨rfl, rfl, id⟩

/-- The work of a dot up to the pixel. -/
theorem composing (slot : κ) : RestsInDark (·.composing slot) := by
  have rendered : RestsInDark fun ppu => if ppu.rendersLine then ppu.renderDot slot else ppu :=
    when (renderDot slot)
  exact rendered.andThen beginBlank

end RestsInDark

/-- Where nothing is shown, neither side has a pixel, and the sprites are not looked at. -/
theorem Dark.compose {ppu : Ppu} (dark : Dark ppu) : ppu.compose = (.clear, ppu) := by
  have back : ppu.backgroundCandidate = .clear := by
    rw [backgroundCandidate, dark.background]
    rfl
  have front : ppu.spriteForeground = (.clear, ppu) := by
    rw [spriteForeground, dark.sprites]
    rfl
  rw [Ppu.compose, back, front]
  rfl

/-- A pixel made in the dark notes no hit, since neither side is opaque. -/
theorem RestsInDark.makePixel (slot : κ) : RestsInDark fun ppu => (ppu.makePixel slot).2 := by
  have made : RestsInDark fun ppu =>
      if ppu.visibleLine && ppu.dotWithin 1 257 then ppu.compose.2 else ppu := by
    refine when fun ppu dark => ?_
    rw [dark.compose]
    exact .refl ppu
  simp only [DotPhase.makePixel_snd]
  exact made

/-- The way over the grid moves no scroll word. -/
theorem RestsInDark.nextDot : RestsInDark nextDot := by
  intro ppu _
  dsimp only [Ppu.nextDot]
  split
  · exact ⟨rfl, rfl, id⟩
  split <;> exact ⟨rfl, rfl, id⟩

/-- A whole dot leaves the scroll word alone in the dark. -/
theorem RestsInDark.clock (slot : κ) : RestsInDark fun ppu => (ppu.clock slot).ppu := by
  have drawn := (composing slot).andThen (makePixel slot)
  have moved := drawn.andThen nextDot
  simp only [DotPhase.clock_ppu]
  exact moved

/-- A pixel in the dark has the colour of the first palette entry. -/
theorem Dark.color_of_pixel {ppu : Ppu} (dark : Dark ppu) (slot : κ) {pixel : Pixel}
    (made : (ppu.clock slot).pixel = some pixel) :
    pixel.color = Color.ofEntry (ppu.readVideo slot 0x3F00) := by
  have still : Dark (ppu.composing slot) := (RestsInDark.composing slot ppu dark).dark dark
  have held := ppu.held_composing slot
  rw [clock_pixel] at made
  generalize ppu.composing slot = composing at made still held
  rw [makePixel, still.compose] at made
  split at made
  · dsimp only at made
    split at made
    · cases made
      exact congrArg Color.ofEntry (readVideo_of_held held slot 0x3F00)
    · cases made
  · cases made

/-- The cartridge is told about no line in the dark. -/
theorem Dark.clock_slot {ppu : Ppu} (dark : Dark ppu) (slot : κ) :
    (ppu.clock slot).slot = slot := by
  rw [DotPhase.clock_slot, dark.rendering]
  rfl

section Runs

variable (ppu : Ppu) (slot : κ)

/-- The last of some dots is clocked behind the others. -/
theorem clocked_slot_succ (count : Nat) :
    (ppu.clocked slot (count + 1)).2
      = ((ppu.clocked slot count).1.clock (ppu.clocked slot count).2).slot := by
  rw [clocked]

/-- Dots change the slot by telling it about lines, and in no other way. -/
theorem exists_iterate_countLine (count : Nat) :
    ∃ lines, (ppu.clocked slot count).2 = CartridgeSide.countLine^[lines] slot := by
  induction count with
  | zero => exact ⟨0, rfl⟩
  | succ count ih =>
    obtain ⟨lines, told⟩ := ih
    rw [clocked_slot_succ, DotPhase.clock_slot, told]
    split
    · exact ⟨lines + 1, (Function.iterate_succ_apply' _ _ _).symm⟩
    · exact ⟨lines, rfl⟩

variable {ppu}

/-- In the dark, dots leave the scroll word and the slot alone and note no hit. -/
theorem Dark.clocked (dark : Dark ppu) (count : Nat) :
    Rests ppu (ppu.clocked slot count).1 ∧ (ppu.clocked slot count).2 = slot := by
  induction count with
  | zero => exact ⟨.refl ppu, rfl⟩
  | succ count ih =>
    obtain ⟨rests, same⟩ := ih
    have now := rests.dark dark
    constructor
    · rw [clocked_ppu_succ]
      exact rests.trans (RestsInDark.clock _ _ now)
    · rw [clocked_slot_succ, now.clock_slot, same]

end Runs

/-- What lines change in a cartridge is the counter of its board. -/
theorem uncounted_iterate_countLine (slot : Option Cartridge) (lines : Nat) :
    ((CartridgeSide.countLine^[lines] slot).map Cartridge.uncounted : Option Cartridge)
      = slot.map Cartridge.uncounted := by
  induction lines with
  | zero => rfl
  | succ lines ih =>
    rw [Function.iterate_succ_apply', ← ih]
    cases CartridgeSide.countLine^[lines] slot with
    | none => rfl
    | some cartridge => exact congrArg some cartridge.uncounted_countLine

/-- A cartridge answers the picture chip with the same banks before and after lines. -/
theorem readCharacter_of_uncounted {slot other : Option Cartridge}
    (same : other.map Cartridge.uncounted = slot.map Cartridge.uncounted) :
    CartridgeSide.readCharacter other = CartridgeSide.readCharacter slot := by
  have answers (slot : Option Cartridge) :
      CartridgeSide.readCharacter slot
        = CartridgeSide.readCharacter (slot.map Cartridge.uncounted) := by
    cases slot with
    | none => rfl
    | some cartridge => exact cartridge.readCharacter_uncounted.symm
  rw [answers other, same, ← answers slot]

/-- No palette entry but the first one is behind `3F00`. -/
theorem readVideo_backdrop (ppu : Ppu) (slot : Option Cartridge) :
    ppu.readVideo slot 0x3F00
      = ppu.palette.read 0 &&& if ppu.mask.greyscale then 0x30 else 0x3F :=
  ppu.readVideo_of_above slot (by decide)

/-- Dots change nothing that only the processor writes, and tell the cartridge about lines, which
changes the counter of its board only. Where nothing is shown, they leave the scroll word alone,
tell the cartridge about no line, note no hit of sprite zero, and every pixel has the colour of the
first palette entry. -/
theorem clocked_frame (ppu : Ppu) (count : Nat) :
    (∀ (κ : Type) [CartridgeSide κ] (slot : κ),
      let now := ppu.clocked slot count
      now.1.held = ppu.held ∧
        (∃ lines, now.2 = CartridgeSide.countLine^[lines] slot) ∧
        (ppu.mask.showBackground = false → ppu.mask.showSprites = false →
          now.1.scroll = ppu.scroll ∧
            (ppu.clocked (Tally.mk slot 0) count).2.told = 0 ∧ now.2 = slot ∧
            (now.1.status.zeroHit = true → ppu.status.zeroHit = true) ∧
            ∀ pixel, (now.1.clock now.2).pixel = some pixel →
              pixel.color = Color.ofEntry (ppu.readVideo slot 0x3F00))) ∧
    ∀ slot : Option Cartridge,
      let now := ppu.clocked slot count
      now.2.map Cartridge.uncounted = slot.map Cartridge.uncounted ∧
        CartridgeSide.readCharacter now.2 = CartridgeSide.readCharacter slot ∧
        ppu.readVideo slot 0x3F00
          = ppu.palette.read 0 &&& if ppu.mask.greyscale then 0x30 else 0x3F := by
  constructor
  · intro κ _ slot
    refine ⟨ppu.held_clocked slot count, ppu.exists_iterate_countLine slot count, ?_⟩
    intro background sprites
    have dark : Dark ppu := ⟨background, sprites⟩
    obtain ⟨rests, same⟩ := dark.clocked slot count
    obtain ⟨-, untold⟩ := dark.clocked (Tally.mk slot 0) count
    refine ⟨rests.scroll, congrArg Tally.told untold, same, rests.zeroHit, fun pixel made => ?_⟩
    have color := (rests.dark dark).color_of_pixel _ made
    rw [color, same, readVideo_of_held (ppu.held_clocked slot count)]
  · intro slot
    obtain ⟨lines, told⟩ := ppu.exists_iterate_countLine slot count
    have same : (ppu.clocked slot count).2.map Cartridge.uncounted
        = slot.map Cartridge.uncounted := by
      rw [told, uncounted_iterate_countLine]
    exact ⟨same, readCharacter_of_uncounted same, ppu.readVideo_backdrop slot⟩

/-- In the middle of a line, with only the switch for greys on, two frames of dots change neither
the scroll word nor the slot, and the pixel of the first dot is grey. -/
theorem clocked_frame_grey :
    let ppu : Ppu := { powerOn with
      mask := ⟨0x01⟩, line := 100, dot := 20, scroll := ⟨0x1234⟩,
      palette := powerOn.palette.write 0 0x2C }
    let slot : Option Cartridge := some Cartridge.blank
    (ppu.clocked slot (2 * 341 * 262)).1.scroll = ⟨0x1234⟩ ∧
      (ppu.clocked slot (2 * 341 * 262)).2 = slot ∧
      (ppu.clock slot).pixel.map (·.color) = some (Color.ofEntry 0x20) := by
  intro ppu slot
  obtain ⟨run, -⟩ := clocked_frame ppu (2 * 341 * 262)
  obtain ⟨now, cartridge⟩ := clocked_frame ppu 0
  obtain ⟨-, -, dark⟩ := run (Option Cartridge) slot
  obtain ⟨-, -, first⟩ := now (Option Cartridge) slot
  obtain ⟨scroll, -, same, -⟩ := dark (by decide) (by decide)
  obtain ⟨-, -, -, -, colors⟩ := first (by decide) (by decide)
  obtain ⟨pixel, made⟩ := Option.isSome_iff_exists.1
    (show (ppu.clock slot).pixel.isSome = true by decide)
  refine ⟨scroll, same, ?_⟩
  rw [made, Option.map_some, colors pixel made, (cartridge slot).2.2]
  exact congrArg (some ∘ Color.ofEntry) (by decide)

end Ppu

end Nes
