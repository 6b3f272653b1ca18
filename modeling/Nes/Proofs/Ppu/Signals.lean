import Nes.Proofs.Ppu.DotWork

/-!
# The signals of the picture chip

The chip signals to the processor by three flags of the status register and by a request for an
interrupt. Apart from what the processor takes back, each of them changes at few places of a frame:
the flags fall at dot 1 of line -1, the blank flag rises at dot 1 of line 241, where the request is
made as well, and the other two flags rise on the lines of the picture, behind their first dot
(`StandsAt.signals_clock`).
-/
namespace Nes.Ppu

variable {κ : Type} [CartridgeSide κ]

/-- What the chip signals to the processor. -/
@[ext]
structure Signals where
  /-- The vertical blank has begun. -/
  vblank : Bool
  /-- Sprite zero has met the background. -/
  zeroHit : Bool
  /-- More than eight sprites lie on one line. -/
  overflow : Bool
  /-- An interrupt has been asked for. -/
  nmiPending : Bool

/-- What the chip signals. -/
def signals (ppu : Ppu) : Signals where
  vblank := ppu.status.vblank
  zeroHit := ppu.status.zeroHit
  overflow := ppu.status.overflow
  nmiPending := ppu.nmiPending

/-- The pipelines signal nothing as they run. -/
theorem signals_blind : PipelineBlind signals := ⟨fun _ _ _ => rfl, fun _ _ => rfl⟩

/-- Leaving out a dot signals nothing. -/
theorem signals_leaveOutDot : Keeps signals leaveOutDot := Keeps.when fun _ => rfl

/-- The way over the grid signals nothing to the processor. -/
theorem signals_nextDot : Keeps signals nextDot := by
  intro ppu
  dsimp only [nextDot]
  split
  · rfl
  split <;> rfl

namespace StandsAt

variable {ppu : Ppu} {place : Nat} (here : StandsAt ppu place) (slot : κ)

include here

/-- The flags of the last frame fall at the second place of a frame. -/
theorem signals_clearFlags :
    ppu.clearFlags.signals
      = ⟨ppu.status.vblank && place != 1, ppu.status.zeroHit && place != 1,
        ppu.status.overflow && place != 1, ppu.nmiPending⟩ := by
  by_cases first : place = 1
  · rw [Ppu.clearFlags, if_pos ((here.isAt_iff (-1) 1 1 rfl rfl).2 first)]
    simp [signals, first]
  · rw [here.clearFlags_of_ne first]
    simp [signals, first]

/-- Only the selection of sprites can find too many of them. -/
theorem signals_runSprites :
    ∃ found, (found = true → 342 ≤ place) ∧
      (ppu.runSprites slot).signals
        = { ppu.signals with overflow := ppu.status.overflow || found } := by
  by_cases selects : place % 341 = 257 ∧ 341 ≤ place
  · rw [here.runSprites_of_select slot selects.1 selects.2]
    exact ⟨_, fun _ => by omega, rfl⟩
  · refine ⟨false, nofun, ?_⟩
    rw [Bool.or_false]
    by_cases last : place % 341 = 340
    · rw [here.runSprites_of_fetch slot last]
      exact signals_blind.fetchSprites slot ppu
    · rw [here.runSprites_of_idle slot selects last]
      rfl

/-- The work of a dot on a line that runs the pipelines makes the flags fall, or finds too many
sprites. -/
theorem signals_renderDot :
    ∃ found, (found = true → 342 ≤ place + ppu.leftOut) ∧
      (ppu.renderDot slot).signals
        = ⟨ppu.status.vblank && place != 1, ppu.status.zeroHit && place != 1,
          ppu.status.overflow && place != 1 || found, ppu.nmiPending⟩ := by
  have left := here.leaveOutDot
  have cases := here.leftOut_cases
  let moved := (ppu.leaveOutDot.clearFlags.runPipelines slot).moveToNextLine slot
  have kept : moved.signals = ppu.leaveOutDot.clearFlags.signals :=
    (signals_blind.tiles.moveToNextLine slot _).trans (signals_blind.runPipelines slot _)
  have there : StandsAt moved (place + ppu.leftOut) := by
    have cleared : StandsAt ppu.leaveOutDot.clearFlags (place + ppu.leftOut) :=
      left.of_grid (congrArg Prod.fst (besideSprites_clearFlags ppu.leaveOutDot))
    exact (cleared.runPipelines slot).moveToNextLine slot
  have fallen := left.signals_clearFlags
  have same := signals_leaveOutDot ppu
  have elsewhere : (place + ppu.leftOut != 1) = (place != 1) := by
    rw [Bool.eq_iff_iff, bne_iff_ne, bne_iff_ne]
    omega
  obtain ⟨found, later, shown⟩ := there.signals_runSprites slot
  refine ⟨found, later, ?_⟩
  simp only [signals, Signals.mk.injEq] at same fallen kept
  obtain ⟨vblank, zeroHit, overflow, nmiPending⟩ := same
  rw [vblank, zeroHit, overflow, nmiPending, elsewhere] at fallen
  obtain ⟨keptBlank, keptHit, keptOverflow, keptRequest⟩ := kept
  obtain ⟨fallenBlank, fallenHit, fallenOverflow, fallenRequest⟩ := fallen
  change (moved.runSprites slot).signals = _
  rw [shown, signals, keptBlank, keptHit, keptOverflow, keptRequest, fallenBlank, fallenHit,
    fallenOverflow, fallenRequest]

/-- The vertical blank begins at one place, and the interrupt is asked for there. -/
theorem signals_beginBlank :
    ppu.beginBlank.signals
      = { ppu.signals with
          vblank := ppu.status.vblank || place == 341 * 242 + 1
          nmiPending := ppu.nmiPending
            || place == 341 * 242 + 1 && ppu.control.nmiEnabled } := by
  by_cases first : place = 341 * 242 + 1
  · rw [Ppu.beginBlank, if_pos ((here.isAt_iff 241 1 _ rfl rfl).2 first), first]
    simp [signals]
  · rw [Ppu.beginBlank, if_neg (mt (here.isAt_iff 241 1 _ rfl rfl).1 first)]
    simp [signals, first]

/-- Only a pixel of the picture can be a hit of sprite zero. -/
theorem signals_makePixel :
    ∃ hit, (hit = true → 342 ≤ place) ∧
      (ppu.makePixel slot).2.signals
        = { ppu.signals with zeroHit := ppu.status.zeroHit || hit } := by
  have front := signals_blind.spriteForeground ppu
  rw [DotPhase.makePixel_snd]
  by_cases drawn : (ppu.visibleLine && ppu.dotWithin 1 257) = true
  · have later : 342 ≤ place := by
      rw [Bool.and_eq_true, here.visibleLine_iff, here.dotWithin_iff 1 257 1 257 rfl rfl] at drawn
      omega
    rw [if_pos drawn, DotPhase.compose_snd]
    refine ⟨DotPhase.notesHit ppu, fun _ => later, ?_⟩
    simp only [signals, Signals.mk.injEq] at front
    obtain ⟨vblank, zeroHit, overflow, nmiPending⟩ := front
    split
    next hit => simp [signals, hit, vblank, overflow, nmiPending]
    next miss => simp [signals, miss, vblank, zeroHit, overflow, nmiPending]
  · rw [if_neg drawn]
    exact ⟨false, nofun, by rw [Bool.or_false]; rfl⟩

/-- What a dot makes of the signals. -/
theorem signals_clock :
    ∃ found hit, (found = true ∨ hit = true → 342 ≤ place + ppu.leftOut) ∧
      (ppu.clock slot).ppu.signals
        = ⟨ppu.status.vblank && place != 1 || place == 341 * 242 + 1,
          ppu.status.zeroHit && place != 1 || hit,
          ppu.status.overflow && place != 1 || found,
          ppu.nmiPending || place == 341 * 242 + 1 && ppu.control.nmiEnabled⟩ := by
  have cases := here.leftOut_cases
  let rendered := if ppu.rendersLine then ppu.renderDot slot else ppu
  have grid : rendered.beginBlank.grid = rendered.grid :=
    (stage_eq_iff.1 (stage_beginBlank rendered)).1
  have composing : StandsAt rendered.beginBlank (place + ppu.leftOut) := here.composing slot
  have there : StandsAt rendered (place + ppu.leftOut) := composing.of_grid grid.symm
  have control : rendered.control = ppu.control :=
    congrArg Held.control ((DotPhase.pipelines slot).held ppu)
  have worked : ∃ found, (found = true → 342 ≤ place + ppu.leftOut) ∧
      rendered.signals
        = ⟨ppu.status.vblank && place != 1, ppu.status.zeroHit && place != 1,
          ppu.status.overflow && place != 1 || found, ppu.nmiPending⟩ := by
    by_cases renders : ppu.rendersLine = true
    · obtain ⟨found, later, shown⟩ := here.signals_renderDot slot
      exact ⟨found, later, by rw [← shown]; exact congrArg signals (if_pos renders)⟩
    · have below : place != 1 := by
        rw [here.rendersLine_iff] at renders
        rw [bne_iff_ne]
        omega
      refine ⟨false, nofun, ?_⟩
      simp only [rendered, if_neg renders, below, Bool.and_true, Bool.or_false]
      rfl
  obtain ⟨found, late, shown⟩ := worked
  obtain ⟨hit, drawn, pixel⟩ := composing.signals_makePixel slot
  have blank := there.signals_beginBlank
  have begins : (place + ppu.leftOut == 341 * 242 + 1) = (place == 341 * 242 + 1) := by
    rw [Bool.eq_iff_iff, beq_iff_eq, beq_iff_eq]
    omega
  refine ⟨found, hit, fun either => either.elim late drawn, ?_⟩
  rw [begins, control] at blank
  simp only [signals, Signals.mk.injEq] at shown blank
  obtain ⟨vblank, zeroHit, overflow, nmiPending⟩ := shown
  rw [vblank, zeroHit, overflow, nmiPending] at blank
  obtain ⟨blankSet, keptHit, keptOverflow, requested⟩ := blank
  rw [DotPhase.clock_ppu, signals_nextDot]
  refine pixel.trans ?_
  rw [signals, blankSet, keptHit, keptOverflow, requested]

end StandsAt

end Nes.Ppu
