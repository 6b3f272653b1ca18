import Nes.Ppu.Dot

/-!
# What a dot leaves alone

The work of a dot is a sequence of phases. Each of them moves the pipelines, the scroll word and
the flags, and leaves alone everything that only the processor writes (`Ppu.Held`). None of them
looks at the choice whether the frame is drawn. Both facts go through sequences and conditions
(`DotPhase`), so they hold of a whole dot (`held_clock`, `clock_withDraws`).
-/
namespace Nes.Ppu

/-- The parts of the picture chip that no dot changes. -/
structure Held where
  /-- The nametables. -/
  nametables : MemoryPair 0x400
  /-- The pattern tables. -/
  patterns : MemoryPair 0x1000
  /-- The palettes. -/
  palette : Memory 32
  /-- Sprite memory. -/
  oam : Memory 256
  /-- The address in sprite memory. -/
  oamAddress : UInt8
  /-- The control register. -/
  control : Control
  /-- The mask register. -/
  mask : Mask
  /-- The bits of the status register that are no flags. -/
  statusLow : UInt8
  /-- The scroll word being written. -/
  nextScroll : Scroll
  /-- The pixel within a tile at the left edge. -/
  fineX : UInt8
  /-- Which of two writes comes next. -/
  secondWrite : Bool
  /-- The byte that the next read of video memory returns. -/
  readBuffer : UInt8
  /-- The choice whether to draw. -/
  drawsFrame : Bool
deriving DecidableEq

/-- The parts that no dot changes. -/
def held (ppu : Ppu) : Held where
  nametables := ppu.nametables
  patterns := ppu.patterns
  palette := ppu.palette
  oam := ppu.oam
  oamAddress := ppu.oamAddress
  control := ppu.control
  mask := ppu.mask
  statusLow := ppu.status.low
  nextScroll := ppu.nextScroll
  fineX := ppu.fineX
  secondWrite := ppu.secondWrite
  readBuffer := ppu.readBuffer
  drawsFrame := ppu.drawsFrame

/-- The picture chip with another choice whether to draw. -/
def withDraws (ppu : Ppu) (draws : Bool) : Ppu := { ppu with drawsFrame := draws }

/-- A choice that has been made already changes nothing. -/
theorem withDraws_self (ppu : Ppu) : ppu.withDraws ppu.drawsFrame = ppu := rfl

/-- A step that does not look at the choice whether to draw. -/
def Blind (phase : Ppu → Ppu) : Prop :=
  ∀ ppu draws, phase (ppu.withDraws draws) = (phase ppu).withDraws draws

/-- A choice between two blind steps is blind, if the choice to draw does not decide it. -/
theorem Blind.either {condition : Ppu → Prop} [DecidablePred condition]
    {first second : Ppu → Ppu}
    (unmoved : ∀ ppu draws, condition (ppu.withDraws draws) ↔ condition ppu)
    (left : Blind first) (right : Blind second) :
    Blind fun ppu => if condition ppu then first ppu else second ppu := by
  intro ppu draws
  dsimp only
  by_cases holds : condition ppu
  · rw [if_pos holds, if_pos ((unmoved ppu draws).2 holds), left]
  · rw [if_neg holds, if_neg (fun moved => holds ((unmoved ppu draws).1 moved)), right]

/-- A phase of a dot: it leaves the held parts alone, and does not look at the choice whether to
draw. -/
structure DotPhase (phase : Ppu → Ppu) : Prop where
  /-- The held parts stay. -/
  held : ∀ ppu, (phase ppu).held = ppu.held
  /-- The choice is not looked at. -/
  blind : Blind phase

namespace DotPhase

variable {κ : Type} [CartridgeSide κ]

/-- Doing nothing is a phase of a dot. -/
theorem idle : DotPhase fun ppu => ppu := ⟨fun _ => rfl, fun _ _ => rfl⟩

/-- Two phases in order are one. -/
theorem andThen {first second : Ppu → Ppu} (left : DotPhase first) (right : DotPhase second) :
    DotPhase fun ppu => second (first ppu) where
  held ppu := (right.held _).trans (left.held ppu)
  blind ppu draws := by
    dsimp only
    rw [left.blind, right.blind]

/-- A choice between two phases is one, if the choice to draw does not decide it. -/
theorem either {condition : Ppu → Prop} [DecidablePred condition] {first second : Ppu → Ppu}
    (unmoved : ∀ ppu draws, condition (ppu.withDraws draws) ↔ condition ppu)
    (left : DotPhase first) (right : DotPhase second) :
    DotPhase fun ppu => if condition ppu then first ppu else second ppu where
  held ppu := by
    split
    · exact left.held ppu
    · exact right.held ppu
  blind := left.blind.either unmoved right.blind

/-- A phase under a condition is one, if the choice to draw does not decide the condition. -/
theorem when {condition : Ppu → Prop} [DecidablePred condition] {phase : Ppu → Ppu}
    (unmoved : ∀ ppu draws, condition (ppu.withDraws draws) ↔ condition ppu)
    (lawful : DotPhase phase) : DotPhase fun ppu => if condition ppu then phase ppu else ppu :=
  either unmoved lawful idle

/-- Leaving out a dot is a phase. -/
theorem leaveOutDot : DotPhase leaveOutDot :=
  when (fun _ _ => Iff.rfl) ⟨fun _ => rfl, fun _ _ => rfl⟩

/-- Clearing the flags is a phase, and leaves the low bits of the status. -/
theorem clearFlags : DotPhase clearFlags :=
  when (fun _ _ => Iff.rfl) ⟨fun _ => rfl, fun _ _ => rfl⟩

/-- Loading the background is a phase. -/
theorem loadBackground : DotPhase loadBackground := ⟨fun _ => rfl, fun _ _ => rfl⟩

/-- Shifting both pipelines is a phase. -/
theorem shiftPipelines : DotPhase shiftPipelines := by
  have background : DotPhase fun ppu =>
      if ppu.mask.showBackground then { ppu with background := ppu.background.shift } else ppu :=
    when (fun _ _ => Iff.rfl) ⟨fun _ => rfl, fun _ _ => rfl⟩
  have sprites : DotPhase fun ppu =>
      if ppu.mask.showSprites && ppu.dotWithin 1 258 then
        { ppu with sprites := ppu.sprites.shift }
      else ppu :=
    when (fun _ _ => Iff.rfl) ⟨fun _ => rfl, fun _ _ => rfl⟩
  exact background.andThen sprites

/-- Fetching the number of a tile is a phase. -/
theorem fetchTile (slot : κ) : DotPhase (·.fetchTile slot) := ⟨fun _ => rfl, fun _ _ => rfl⟩

/-- Fetching the palette of a tile is a phase. -/
theorem fetchAttribute (slot : κ) : DotPhase (·.fetchAttribute slot) :=
  ⟨fun _ => rfl, fun _ _ => rfl⟩

/-- Fetching the low plane of a tile is a phase. -/
theorem fetchLow (slot : κ) : DotPhase (·.fetchLow slot) := ⟨fun _ => rfl, fun _ _ => rfl⟩

/-- Fetching the high plane of a tile is a phase. -/
theorem fetchHigh (slot : κ) : DotPhase (·.fetchHigh slot) := ⟨fun _ => rfl, fun _ _ => rfl⟩

/-- A change of the scroll word may use the held parts. -/
theorem moveScroll {change : Ppu → Scroll → Scroll}
    (unmoved : ∀ ppu draws, change (ppu.withDraws draws) = change ppu) :
    DotPhase fun ppu => ppu.moveScroll (change ppu) := by
  have moved : DotPhase fun ppu => { ppu with scroll := change ppu ppu.scroll } :=
    ⟨fun _ => rfl, fun ppu draws => by rw [unmoved]; rfl⟩
  exact when (fun _ _ => Iff.rfl) moved

/-- The place within a line decides which step of the background pipeline is taken. -/
theorem fetchBackground (slot : κ) : DotPhase (·.fetchBackground slot) := by
  have loaded : DotPhase fun ppu => ppu.loadBackground.fetchTile slot :=
    loadBackground.andThen (fetchTile slot)
  have moved : DotPhase fun ppu => ppu.moveScroll Scroll.nextColumn := moveScroll fun _ _ => rfl
  constructor
  · intro ppu
    simp only [Ppu.fetchBackground]
    split
    · exact loaded.held ppu
    · exact (fetchAttribute slot).held ppu
    · exact (fetchLow slot).held ppu
    · exact (fetchHigh slot).held ppu
    · exact moved.held ppu
    · rfl
  · intro ppu draws
    have place : (ppu.withDraws draws).dot = ppu.dot := rfl
    simp only [Ppu.fetchBackground, place]
    split
    · exact loaded.blind ppu draws
    · exact (fetchAttribute slot).blind ppu draws
    · exact (fetchLow slot).blind ppu draws
    · exact (fetchHigh slot).blind ppu draws
    · exact moved.blind ppu draws
    · rfl

/-- Shifting and fetching make a phase. -/
theorem runPipelines (slot : κ) : DotPhase (·.runPipelines slot) :=
  when (fun _ _ => Iff.rfl) (shiftPipelines.andThen (fetchBackground slot))

/-- What is done to the scroll word at the ends of a line is a phase. -/
theorem moveToNextLine (slot : κ) : DotPhase (·.moveToNextLine slot) := by
  have down : DotPhase fun ppu =>
      if ppu.dot == 256 then ppu.moveScroll Scroll.nextLine else ppu :=
    when (fun _ _ => Iff.rfl) (moveScroll fun _ _ => rfl)
  have copied : DotPhase fun ppu => ppu.moveScroll (·.copyHorizontal ppu.nextScroll) :=
    moveScroll fun _ _ => rfl
  have left : DotPhase fun ppu =>
      if ppu.dot == 257 then ppu.loadBackground.moveScroll (·.copyHorizontal ppu.nextScroll)
      else ppu :=
    when (fun _ _ => Iff.rfl) (loadBackground.andThen copied)
  have unused : DotPhase fun ppu =>
      if ppu.dot == 338 || ppu.dot == 340 then ppu.fetchTile slot else ppu :=
    when (fun _ _ => Iff.rfl) (fetchTile slot)
  have up : DotPhase fun ppu =>
      if ppu.line == -1 && ppu.dotWithin 280 305 then
        ppu.moveScroll (·.copyVertical ppu.nextScroll)
      else ppu :=
    when (fun _ _ => Iff.rfl) (moveScroll fun _ _ => rfl)
  have across := down.andThen left
  have fetched := across.andThen unused
  have moved := fetched.andThen up
  exact moved

/-- Selecting sprites is a phase. -/
theorem selectSprites : DotPhase selectSprites := ⟨fun _ => rfl, fun _ _ => rfl⟩

/-- Fetching the patterns of sprites is a phase. -/
theorem fetchSprites (slot : κ) : DotPhase (·.fetchSprites slot) :=
  ⟨fun _ => rfl, fun _ _ => rfl⟩

/-- What is done for sprites at the end of a line is a phase. -/
theorem runSprites (slot : κ) : DotPhase (·.runSprites slot) := by
  have selected : DotPhase fun ppu =>
      if ppu.dot == 257 && 0 ≤ ppu.line then ppu.selectSprites else ppu :=
    when (fun _ _ => Iff.rfl) selectSprites
  have fetched : DotPhase fun ppu => if ppu.dot == 340 then ppu.fetchSprites slot else ppu :=
    when (fun _ _ => Iff.rfl) (fetchSprites slot)
  exact selected.andThen fetched

/-- The work of a dot on a line that runs the pipelines is a phase. -/
theorem renderDot (slot : κ) : DotPhase (·.renderDot slot) := by
  have cleared := leaveOutDot.andThen clearFlags
  have fetched := cleared.andThen (runPipelines slot)
  have moved := fetched.andThen (moveToNextLine slot)
  have ended := moved.andThen (runSprites slot)
  exact ended

/-- The beginning of the blank is a phase. -/
theorem beginBlank : DotPhase beginBlank := by
  have blank : DotPhase fun ppu =>
      { ppu with
        status := { ppu.status with vblank := true }
        nmiPending := ppu.nmiPending || ppu.control.nmiEnabled } :=
    ⟨fun _ => rfl, fun _ _ => rfl⟩
  exact when (fun _ _ => Iff.rfl) blank

/-- The way over the grid is a phase. -/
theorem nextDot : DotPhase nextDot := by
  have line : DotPhase fun ppu =>
      if ppu.line + 1 < 261 then { ppu with dot := 0, line := ppu.line + 1 }
      else { ppu with dot := 0, line := -1, frameComplete := true, oddFrame := !ppu.oddFrame } :=
    either (fun _ _ => Iff.rfl) ⟨fun _ => rfl, fun _ _ => rfl⟩ ⟨fun _ => rfl, fun _ _ => rfl⟩
  have dot : DotPhase fun ppu => { ppu with dot := ppu.dot + 1 } :=
    ⟨fun _ => rfl, fun _ _ => rfl⟩
  exact either (fun _ _ => Iff.rfl) dot line

/-- The choice to draw has no part in the foreground. -/
theorem spriteForeground_withDraws (ppu : Ppu) (draws : Bool) :
    (ppu.withDraws draws).spriteForeground
      = (ppu.spriteForeground.1, ppu.spriteForeground.2.withDraws draws) := by
  by_cases shown : (ppu.mask.showSprites && (9 ≤ ppu.dot || ppu.mask.showSpritesLeft)) = true
  · have here : ppu.spriteForeground = _ := if_pos shown
    have there : (ppu.withDraws draws).spriteForeground = _ := if_pos shown
    rw [here, there]
    rfl
  · have here : ppu.spriteForeground = _ := if_neg shown
    have there : (ppu.withDraws draws).spriteForeground = _ := if_neg shown
    rw [here, there]

/-- Noting the source of the foreground is a phase. -/
theorem spriteForeground : DotPhase (·.spriteForeground.2) where
  held ppu := by
    rw [Ppu.spriteForeground]
    split <;> rfl
  blind ppu draws := congrArg Prod.snd (spriteForeground_withDraws ppu draws)

/-- Whether both sides are opaque at the current dot and make a hit of sprite zero. -/
def notesHit (ppu : Ppu) : Bool :=
  ppu.backgroundCandidate.isOpaque && ppu.spriteForeground.1.candidate.isOpaque
    && ppu.spriteForeground.2.hitsZero

/-- Deciding between the two sides changes only the sprite pipeline and the hit flag. -/
theorem compose_snd (ppu : Ppu) :
    ppu.compose.2 = if notesHit ppu then
        { ppu.spriteForeground.2 with
          status := { ppu.spriteForeground.2.status with zeroHit := true } }
      else ppu.spriteForeground.2 := by
  cases back : ppu.backgroundCandidate.isOpaque <;>
    cases front : ppu.spriteForeground.1.candidate.isOpaque <;>
    cases hit : ppu.spriteForeground.2.hitsZero <;>
    simp [Ppu.compose, notesHit, back, front, hit]

/-- Deciding between the two sides is a phase, which may note a hit. -/
theorem compose : DotPhase (·.compose.2) := by
  have hit : DotPhase fun ppu => { ppu with status := { ppu.status with zeroHit := true } } :=
    ⟨fun _ => rfl, fun _ _ => rfl⟩
  have noted := spriteForeground.andThen hit
  have unmoved (ppu : Ppu) (draws : Bool) :
      notesHit (ppu.withDraws draws) = true ↔ notesHit ppu = true := by
    rw [notesHit, spriteForeground_withDraws]
    exact Iff.rfl
  have decided : DotPhase fun ppu => if notesHit ppu then
      { ppu.spriteForeground.2 with
        status := { ppu.spriteForeground.2.status with zeroHit := true } }
      else ppu.spriteForeground.2 :=
    either unmoved noted spriteForeground
  simp only [compose_snd]
  exact decided

/-- Making a pixel changes what deciding between the two sides changes, drawn or not. -/
theorem makePixel_snd (ppu : Ppu) (slot : κ) :
    (ppu.makePixel slot).2
      = if ppu.visibleLine && ppu.dotWithin 1 257 then ppu.compose.2 else ppu := by
  rw [Ppu.makePixel]
  split
  · dsimp only
    split <;> rfl
  · rfl

/-- Making a pixel is a phase as far as the chip is concerned; only the pixel depends on the
choice. -/
theorem makePixel (slot : κ) : DotPhase fun ppu => (ppu.makePixel slot).2 := by
  have made : DotPhase fun ppu =>
      if ppu.visibleLine && ppu.dotWithin 1 257 then ppu.compose.2 else ppu :=
    when (fun _ _ => Iff.rfl) compose
  simp only [makePixel_snd]
  exact made

/-- The work of a dot up to the pixel, which runs the pipelines on some lines only. -/
theorem pipelines (slot : κ) :
    DotPhase fun ppu => if ppu.rendersLine then ppu.renderDot slot else ppu :=
  when (fun _ _ => Iff.rfl) (renderDot slot)

/-- The picture chip just before it goes on to the next dot. -/
def drawn (ppu : Ppu) (slot : κ) : Ppu :=
  ((if ppu.rendersLine then ppu.renderDot slot else ppu).beginBlank.makePixel slot).2

/-- All that is done before the chip goes on to the next dot is a phase. -/
theorem drawn_dotPhase (slot : κ) : DotPhase fun ppu => drawn ppu slot := by
  have blank := (pipelines slot).andThen beginBlank
  have pixel := blank.andThen (makePixel slot)
  exact pixel

/-- A dot ends by going on to the next one. -/
theorem clock_ppu (ppu : Ppu) (slot : κ) : (ppu.clock slot).ppu = (drawn ppu slot).nextDot := by
  simp only [Ppu.clock, drawn]

/-- A dot tells the cartridge about a line at one place of lines that are drawn. -/
theorem clock_slot (ppu : Ppu) (slot : κ) :
    (ppu.clock slot).slot
      = if ppu.mask.rendering && (drawn ppu slot).countsLine then CartridgeSide.countLine slot
        else slot := by
  by_cases counts : (ppu.mask.rendering && (drawn ppu slot).countsLine) = true
  · rw [if_pos counts]
    exact if_pos counts
  · rw [if_neg counts]
    exact if_neg counts

/-- A whole dot is a phase. -/
theorem clock (slot : κ) : DotPhase fun ppu => (ppu.clock slot).ppu := by
  have moved := (drawn_dotPhase slot).andThen nextDot
  simp only [clock_ppu]
  exact moved

end DotPhase

variable {κ : Type} [CartridgeSide κ]

/-- No dot changes what only the processor writes. -/
theorem held_clock (ppu : Ppu) (slot : κ) : (ppu.clock slot).ppu.held = ppu.held :=
  (DotPhase.clock slot).held ppu

/-- A dot leaves sprite memory alone. -/
theorem oam_clock (ppu : Ppu) (slot : κ) : (ppu.clock slot).ppu.oam = ppu.oam := by
  have held := ppu.held_clock slot
  generalize (ppu.clock slot).ppu = after at held ⊢
  exact congrArg Held.oam held

/-- A dot leaves the low bits of the status alone. -/
theorem statusLow_clock (ppu : Ppu) (slot : κ) :
    (ppu.clock slot).ppu.status.low = ppu.status.low := by
  have held := ppu.held_clock slot
  generalize (ppu.clock slot).ppu = after at held ⊢
  exact congrArg Held.statusLow held

/-- A dot leaves the choice whether to draw alone. -/
theorem drawsFrame_clock (ppu : Ppu) (slot : κ) :
    (ppu.clock slot).ppu.drawsFrame = ppu.drawsFrame := by
  have held := ppu.held_clock slot
  generalize (ppu.clock slot).ppu = after at held ⊢
  exact congrArg Held.drawsFrame held

/-- A dot changes the picture chip in the same way whether it is drawn or not. -/
theorem clock_withDraws (ppu : Ppu) (slot : κ) (draws : Bool) :
    ((ppu.withDraws draws).clock slot).ppu = (ppu.clock slot).ppu.withDraws draws :=
  (DotPhase.clock slot).blind ppu draws

/-- A dot tells the cartridge about the line in the same way whether it is drawn or not. -/
theorem clock_slot_withDraws (ppu : Ppu) (slot : κ) (draws : Bool) :
    ((ppu.withDraws draws).clock slot).slot = (ppu.clock slot).slot := by
  have same : DotPhase.drawn (ppu.withDraws draws) slot
      = (DotPhase.drawn ppu slot).withDraws draws :=
    (DotPhase.drawn_dotPhase slot).blind ppu draws
  rw [DotPhase.clock_slot, DotPhase.clock_slot, same]
  generalize DotPhase.drawn ppu slot = after
  rfl

end Nes.Ppu
