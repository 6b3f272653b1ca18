import Nes.Proofs.Ppu.DotPhase

/-!
# The two sides of a dot

Besides what only the processor writes, the chip consists of the place on the grid, the background
side and the sprite side (`Ppu.stage`). The phases of a dot work on one side each and keep the
others: tiles are fetched without a look at the sprites, and sprites without a look at the tiles.
The pixel of a dot is decided upon in `Ppu.composing`, and leaves all of that alone but for the note
which sprite was shown last. In the first two dots of a line no pipeline runs, and the odd dot is
left out there, so from the third dot on a line is fetching, moving on and sprites only
(`StandsAt.renderDot_of_later`).
-/
namespace Nes.Ppu

variable {κ : Type} [CartridgeSide κ]

/-- Where the chip stands, and what the end of a frame changes. -/
structure Grid where
  /-- The line. -/
  line : Int16
  /-- The dot within the line. -/
  dot : Int16
  /-- The frame is one of those that leave out a dot. -/
  oddFrame : Bool
  /-- A frame has ended. -/
  frameComplete : Bool

/-- Where the chip stands. -/
def grid (ppu : Ppu) : Grid := ⟨ppu.line, ppu.dot, ppu.oddFrame, ppu.frameComplete⟩

/-- Whether the frame is an odd one is a part of the grid. -/
theorem oddFrame_of_grid {ppu other : Ppu} (same : other.grid = ppu.grid) :
    other.oddFrame = ppu.oddFrame :=
  congrArg Grid.oddFrame same

/-- Whether a frame has ended is a part of the grid. -/
theorem frameComplete_of_grid {ppu other : Ppu} (same : other.grid = ppu.grid) :
    other.frameComplete = ppu.frameComplete :=
  congrArg Grid.frameComplete same

/-- The background pipeline, and the scroll word that it fetches from. -/
structure TileSide where
  /-- The pipeline. -/
  background : Background
  /-- The scroll word in use. -/
  scroll : Scroll

/-- The background side. -/
def tiles (ppu : Ppu) : TileSide := ⟨ppu.background, ppu.scroll⟩

/-- The pipeline without the note which sprite was shown last. -/
def Sprites.unmarked (sprites : Sprites) : Sprites := { sprites with zeroShown := false }

/-- The note has no part in the movement of the sprites. -/
theorem Sprites.unmarked_shift (sprites : Sprites) :
    sprites.shift.unmarked = sprites.unmarked.shift := by
  by_cases none : sprites.count = 0
  · have noneLeft : sprites.unmarked.count = 0 := none
    rw [Sprites.shift, if_pos none, Sprites.shift, if_pos noneLeft]
  · have someLeft : ¬sprites.unmarked.count = 0 := none
    rw [Sprites.shift, if_neg none, Sprites.shift, if_neg someLeft]
    rfl

/-- The sprite side. -/
def lineup (ppu : Ppu) : Sprites := ppu.sprites.unmarked

/-- A phase of a dot leaves a view of the chip alone. -/
def Keeps {α : Type} (view : Ppu → α) (phase : Ppu → Ppu) : Prop :=
  ∀ ppu, view (phase ppu) = view ppu

namespace Keeps

variable {α : Type} {view : Ppu → α} {first second phase : Ppu → Ppu}

/-- Two phases in order keep what both keep. -/
theorem andThen (left : Keeps view first) (right : Keeps view second) :
    Keeps view fun ppu => second (first ppu) :=
  fun ppu => (right (first ppu)).trans (left ppu)

/-- A phase under a condition keeps what it keeps without. -/
theorem when {condition : Ppu → Prop} [DecidablePred condition] (kept : Keeps view phase) :
    Keeps view fun ppu => if condition ppu then phase ppu else ppu := by
  intro ppu
  dsimp only
  split
  · exact kept ppu
  · rfl

end Keeps

/-- What the work on tiles keeps. -/
def besideTiles (ppu : Ppu) : Grid × Sprites := (ppu.grid, ppu.sprites)

/-- What the work on sprites keeps. -/
def besideSprites (ppu : Ppu) : Grid × TileSide := (ppu.grid, ppu.tiles)

/-- The grid and both sides. -/
def stage (ppu : Ppu) : Grid × TileSide × Sprites := (ppu.grid, ppu.tiles, ppu.lineup)

/-- What the work on tiles keeps is the grid and the sprite pipeline. -/
theorem besideTiles_eq_iff {ppu other : Ppu} :
    ppu.besideTiles = other.besideTiles ↔ ppu.grid = other.grid ∧ ppu.sprites = other.sprites :=
  Prod.mk.injEq .. ▸ Iff.rfl

/-- What the work on sprites keeps is the grid and the background side. -/
theorem besideSprites_eq_iff {ppu other : Ppu} :
    ppu.besideSprites = other.besideSprites ↔ ppu.grid = other.grid ∧ ppu.tiles = other.tiles :=
  Prod.mk.injEq .. ▸ Iff.rfl

/-- A stage is the grid with the two sides. -/
theorem stage_eq_iff {ppu other : Ppu} :
    ppu.stage = other.stage
      ↔ ppu.grid = other.grid ∧ ppu.tiles = other.tiles ∧ ppu.lineup = other.lineup := by
  simp only [stage, Prod.mk.injEq]

/-- A view that shows nothing of the background pipeline and of the scroll word. -/
def TileBlind {α : Type} (view : Ppu → α) : Prop :=
  ∀ ppu background scroll, view { ppu with background, scroll } = view ppu

namespace TileBlind

variable {α : Type} {view : Ppu → α} (blind : TileBlind view)

include blind

/-- A move of the scroll word is not seen by a view without it. -/
theorem moveScroll (change : Ppu → Scroll → Scroll) :
    Keeps view fun ppu => ppu.moveScroll (change ppu) := by
  intro ppu
  dsimp only [Ppu.moveScroll]
  split
  · exact blind ppu ppu.background (change ppu ppu.scroll)
  · rfl

/-- A change of the background pipeline alone is not seen. -/
theorem pipeline (change : Ppu → Background) :
    Keeps view fun ppu => { ppu with background := change ppu } :=
  fun ppu => blind ppu (change ppu) ppu.scroll

/-- The steps of the background pipeline are not seen by a view without that pipeline and the scroll
word. -/
theorem fetchBackground (slot : κ) : Keeps view (·.fetchBackground slot) := by
  intro ppu
  have moved := blind.moveScroll (fun _ => Scroll.nextColumn) ppu
  simp only [Ppu.fetchBackground]
  split
  case h_5 => exact moved
  case h_6 => rfl
  all_goals exact blind ppu _ ppu.scroll

/-- What the ends of a line move and fetch is not seen by such a view. -/
theorem moveToNextLine (slot : κ) : Keeps view (·.moveToNextLine slot) := by
  have down : Keeps view fun ppu =>
      if ppu.dot == 256 then ppu.moveScroll Scroll.nextLine else ppu :=
    Keeps.when (blind.moveScroll fun _ => Scroll.nextLine)
  have loaded : Keeps view loadBackground := blind.pipeline (·.background.load)
  have copied := blind.moveScroll fun ppu => (·.copyHorizontal ppu.nextScroll)
  have left : Keeps view fun ppu =>
      if ppu.dot == 257 then ppu.loadBackground.moveScroll (·.copyHorizontal ppu.nextScroll)
      else ppu :=
    Keeps.when (loaded.andThen copied)
  have fetched : Keeps view (·.fetchTile slot) := fun ppu => blind ppu _ ppu.scroll
  have unused : Keeps view fun ppu =>
      if ppu.dot == 338 || ppu.dot == 340 then ppu.fetchTile slot else ppu :=
    Keeps.when fetched
  have up : Keeps view fun ppu =>
      if ppu.line == -1 && ppu.dotWithin 280 305 then
        ppu.moveScroll (·.copyVertical ppu.nextScroll)
      else ppu :=
    Keeps.when (blind.moveScroll fun ppu => (·.copyVertical ppu.nextScroll))
  exact ((down.andThen left).andThen unused).andThen up

end TileBlind

/-- The grid and the sprite pipeline show nothing of the background side. -/
theorem besideTiles_blind : TileBlind besideTiles := fun _ _ _ => rfl

/-- A move of the scroll word keeps what is beside the tiles. -/
theorem besideTiles_moveScroll (change : Ppu → Scroll → Scroll) :
    Keeps besideTiles fun ppu => ppu.moveScroll (change ppu) := besideTiles_blind.moveScroll change

/-- The steps of the background pipeline keep what is beside the tiles. -/
theorem besideTiles_fetchBackground (slot : κ) : Keeps besideTiles (·.fetchBackground slot) :=
  besideTiles_blind.fetchBackground slot

/-- The ends of a line keep what is beside the tiles. -/
theorem besideTiles_moveToNextLine (slot : κ) : Keeps besideTiles (·.moveToNextLine slot) :=
  besideTiles_blind.moveToNextLine slot

/-- Clearing the flags keeps what is beside the sprites. -/
theorem besideSprites_clearFlags : Keeps besideSprites clearFlags := Keeps.when fun _ => rfl

/-- Selecting and fetching sprites keep what is beside them. -/
theorem besideSprites_runSprites (slot : κ) : Keeps besideSprites (·.runSprites slot) := by
  have selected : Keeps besideSprites fun ppu =>
      if ppu.dot == 257 && 0 ≤ ppu.line then ppu.selectSprites else ppu :=
    Keeps.when fun _ => rfl
  have fetched : Keeps besideSprites fun ppu =>
      if ppu.dot == 340 then ppu.fetchSprites slot else ppu :=
    Keeps.when fun _ => rfl
  exact selected.andThen fetched

/-- A view that shows nothing of either pipeline. -/
structure PipelineBlind {α : Type} (view : Ppu → α) : Prop where
  /-- The background side is not seen. -/
  tiles : TileBlind view
  /-- The sprite pipeline is not seen. -/
  sprites : ∀ ppu sprites, view { ppu with sprites } = view ppu

namespace PipelineBlind

variable {α : Type} {view : Ppu → α} (blind : PipelineBlind view)

include blind

/-- Shifting is not seen by a view without the pipelines. -/
theorem shiftPipelines : Keeps view shiftPipelines := by
  have background : Keeps view fun ppu =>
      if ppu.mask.showBackground then { ppu with background := ppu.background.shift } else ppu :=
    Keeps.when (blind.tiles.pipeline (·.background.shift))
  have sprites : Keeps view fun ppu =>
      if ppu.mask.showSprites && ppu.dotWithin 1 258 then
        { ppu with sprites := ppu.sprites.shift }
      else ppu :=
    Keeps.when fun ppu => blind.sprites ppu _
  exact background.andThen sprites

/-- Shifting and fetching together are not seen by such a view. -/
theorem runPipelines (slot : κ) : Keeps view (·.runPipelines slot) :=
  Keeps.when (blind.shiftPipelines.andThen (blind.tiles.fetchBackground slot))

/-- The patterns that are fetched are not seen by a view without the sprite pipeline. -/
theorem fetchSprites (slot : κ) : Keeps view (·.fetchSprites slot) :=
  fun ppu => blind.sprites ppu _

/-- The note which sprite was shown last is not seen by a view without it. -/
theorem spriteForeground : Keeps view (·.spriteForeground.2) := by
  intro ppu
  dsimp only [Ppu.spriteForeground]
  split
  · exact blind.sprites ppu _
  · rfl

end PipelineBlind

/-- The grid shows nothing of either pipeline. -/
theorem grid_blind : PipelineBlind grid := ⟨fun _ _ _ => rfl, fun _ _ => rfl⟩

/-- Shifting does not move the chip. -/
theorem grid_shiftPipelines : Keeps grid shiftPipelines := grid_blind.shiftPipelines

/-- The tiles and the sprites move apart from each other. -/
theorem shiftPipelines_eq (ppu : Ppu) :
    ppu.shiftPipelines = { ppu with
      background := if ppu.mask.showBackground then ppu.background.shift else ppu.background
      sprites := if ppu.mask.showSprites && ppu.dotWithin 1 258 then ppu.sprites.shift
        else ppu.sprites } := by
  have moved (ppu : Ppu) : (if ppu.mask.showSprites && ppu.dotWithin 1 258 then
      { ppu with sprites := ppu.sprites.shift } else ppu)
        = { ppu with sprites := if ppu.mask.showSprites && ppu.dotWithin 1 258 then
          ppu.sprites.shift else ppu.sprites } := by
    split <;> rfl
  rw [shiftPipelines, moved]
  cases ppu.mask.showBackground <;> rfl

/-- The sprites move while a line is drawn, whether the tiles move or not. -/
theorem sprites_shiftPipelines (ppu : Ppu) :
    ppu.shiftPipelines.sprites
      = if ppu.mask.showSprites && ppu.dotWithin 1 258 then ppu.sprites.shift
        else ppu.sprites := by
  rw [shiftPipelines_eq]

/-- Shifting and fetching do not move the chip. -/
theorem grid_runPipelines (slot : κ) : Keeps grid (·.runPipelines slot) :=
  grid_blind.runPipelines slot

/-- The ends of a line do not move the chip. -/
theorem grid_moveToNextLine (slot : κ) : Keeps grid (·.moveToNextLine slot) :=
  grid_blind.tiles.moveToNextLine slot

/-- Selecting and fetching sprites do not move the chip. -/
theorem grid_runSprites (slot : κ) : Keeps grid (·.runSprites slot) := fun ppu =>
  congrArg Prod.fst (besideSprites_runSprites slot ppu)

/-- The work on tiles changes nothing that only the processor writes. -/
theorem held_moveToNextLine (ppu : Ppu) (slot : κ) :
    ((ppu.runPipelines slot).moveToNextLine slot).held = ppu.held := by
  have fetched := (DotPhase.runPipelines slot).held ppu
  have moved := (DotPhase.moveToNextLine slot).held (ppu.runPipelines slot)
  exact moved.trans fetched

/-- The beginning of the blank keeps the stage. -/
theorem stage_beginBlank : Keeps stage beginBlank := Keeps.when fun _ => rfl

/-- The foreground keeps the stage, since the note that it makes is no part of it. -/
theorem stage_spriteForeground : Keeps stage (·.spriteForeground.2) := by
  intro ppu
  dsimp only [spriteForeground]
  split
  · dsimp only [Sprites.foreground]
    split <;> rfl
  · rfl

/-- Deciding between the two sides keeps the stage. -/
theorem stage_compose : Keeps stage (·.compose.2) := by
  intro ppu
  dsimp only
  rw [DotPhase.compose_snd]
  split
  · exact stage_spriteForeground ppu
  · exact stage_spriteForeground ppu

/-- Making a pixel keeps the stage. -/
theorem stage_makePixel (slot : κ) : Keeps stage fun ppu => (ppu.makePixel slot).2 := by
  have made : Keeps stage fun ppu =>
      if ppu.visibleLine && ppu.dotWithin 1 257 then ppu.compose.2 else ppu :=
    Keeps.when stage_compose
  intro ppu
  dsimp only
  rw [DotPhase.makePixel_snd]
  exact made ppu

/-- The chip when it decides on the pixel of the current dot. -/
def composing (ppu : Ppu) (slot : κ) : Ppu :=
  (if ppu.rendersLine then ppu.renderDot slot else ppu).beginBlank

/-- The pixel of a dot is made there. -/
theorem clock_pixel (ppu : Ppu) (slot : κ) :
    (ppu.clock slot).pixel = ((ppu.composing slot).makePixel slot).1 := by
  simp only [clock, composing]

/-- The work of a dot up to its pixel is a phase. -/
theorem composing_dotPhase (slot : κ) : DotPhase (·.composing slot) := by
  have blank := (DotPhase.pipelines slot).andThen DotPhase.beginBlank
  exact blank

/-- The chip that decides on a pixel has all that the processor wrote before the dot. -/
theorem held_composing (ppu : Ppu) (slot : κ) : (ppu.composing slot).held = ppu.held :=
  (composing_dotPhase slot).held ppu

/-- Up to the step to the next dot, the rest of a dot changes nothing on either side. -/
theorem stage_drawn (ppu : Ppu) (slot : κ) :
    (DotPhase.drawn ppu slot).stage = (ppu.composing slot).stage :=
  stage_makePixel slot (ppu.composing slot)

end Nes.Ppu
