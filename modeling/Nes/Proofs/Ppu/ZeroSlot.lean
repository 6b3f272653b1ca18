import Nes.Proofs.Ppu.Signals

/-!
# The hit of a dot

A dot of the picture notes a hit of sprite zero where both sides are shown and have a colour, and
the first slot holds sprite zero and shows a colour (`notesHit_iff`). The flag for which slot was
shown last has no part in it, since it is made anew wherever the sprites are shown. So of all the
sprites a hit depends on the first slot alone, and of that slot on neither palette nor priority
(`StandsAt.zeroHit_clock_withSprites`).
-/
namespace Nes.Ppu

variable {κ : Type} [CartridgeSide κ]

namespace Sprites

variable (sprites : Sprites)

/-- The first slot is shown wherever it shows a colour, since no slot comes before it. -/
theorem shown?_eq_zero_iff : sprites.shown? = some 0 ↔ sprites.colorOf 0 ≠ 0 := by
  rw [shown?, List.finRange_succ, List.find?_cons]
  by_cases clear : sprites.colorOf 0 = 0
  · have passed : (sprites.colorOf 0 != 0) = false := bne_eq_false_iff_eq.2 clear
    rw [passed]
    refine ⟨fun found => ?_, fun solid => absurd clear solid⟩
    obtain ⟨index, -, same⟩ := List.mem_map.1 (List.mem_of_find?_eq_some found)
    exact absurd same (Fin.succ_ne_zero index)
  · have found : (sprites.colorOf 0 != 0) = true := bne_iff_ne.2 clear
    rw [found]
    exact ⟨fun _ => clear, fun _ => rfl⟩

/-- So the foreground is that of the first slot just where that shows a colour. -/
theorem zeroShown_foreground_iff :
    sprites.foreground.1.candidate.isOpaque = true ∧ sprites.foreground.2.zeroShown = true
      ↔ sprites.colorOf 0 ≠ 0 := by
  rw [← shown?_eq_zero_iff, foreground]
  cases first : sprites.shown? with
  | none => exact ⟨fun both => absurd both.2 Bool.false_ne_true, nofun⟩
  | some index =>
    have solid := List.find?_some first
    change (sprites.colorOf index != 0) = true ∧ (index == 0) = true ↔ _
    rw [beq_iff_eq, and_iff_right solid, Option.some_inj]

/-- The note which sprite was shown last does not change which one is in the first slot. -/
theorem zeroSelected_foreground : sprites.foreground.2.zeroSelected = sprites.zeroSelected := by
  rw [foreground]
  split <;> rfl

end Sprites

/-- A side is shown at a dot where it is shown at all and the left edge is not hidden. -/
theorem shown_iff (shown shownLeft : Bool) (dot : Int16) :
    (shown && (decide (9 ≤ dot) || shownLeft)) = true
      ↔ shown = true ∧ (dot < 9 → shownLeft = true) := by
  rw [Bool.and_eq_true, Bool.or_eq_true, decide_eq_true_iff, ← Int16.not_lt,
    Decidable.or_iff_not_imp_left, Decidable.not_not]

/-- In the picture, a hit is noted where both sides are shown and not hidden at the left edge, the
background has a colour, and so has sprite zero. -/
theorem notesHit_iff (ppu : Ppu) (inside : ppu.dotWithin 1 258 = true) :
    DotPhase.notesHit ppu = true
      ↔ (ppu.mask.showBackground = true ∧ (ppu.dot < 9 → ppu.mask.showBackgroundLeft = true)) ∧
        (ppu.mask.showSprites = true ∧ (ppu.dot < 9 → ppu.mask.showSpritesLeft = true)) ∧
        (ppu.background.candidate ppu.fineX).isOpaque = true ∧
        ppu.sprites.zeroSelected = true ∧ ppu.sprites.colorOf 0 ≠ 0 := by
  rw [← shown_iff, ← shown_iff, ← Sprites.zeroShown_foreground_iff,
    ← Sprites.zeroSelected_foreground, DotPhase.notesHit, backgroundCandidate, spriteForeground]
  by_cases back : (ppu.mask.showBackground && (9 ≤ ppu.dot || ppu.mask.showBackgroundLeft)) = true
  · by_cases front : (ppu.mask.showSprites && (9 ≤ ppu.dot || ppu.mask.showSpritesLeft)) = true
    · rw [if_pos back, if_pos front]
      obtain ⟨backShown, backLeft⟩ := (shown_iff _ _ _).1 back
      obtain ⟨frontShown, -⟩ := (shown_iff _ _ _).1 front
      have unclipped : ppu.dotWithin
          (if !(ppu.mask.showBackgroundLeft || ppu.mask.showSpritesLeft) then 9 else 1) 258
            = true := by
        by_cases backEdge : ppu.mask.showBackgroundLeft = true
        · rw [backEdge]
          exact inside
        · have late : 9 ≤ ppu.dot := Int16.not_lt.1 (mt backLeft backEdge)
          rw [dotWithin, Bool.and_eq_true] at inside ⊢
          refine ⟨decide_eq_true ?_, inside.2⟩
          split
          · exact late
          · exact of_decide_eq_true inside.1
      have hits : { ppu with sprites := ppu.sprites.foreground.2 }.hitsZero
          = (ppu.sprites.foreground.2.zeroSelected && ppu.sprites.foreground.2.zeroShown) := by
        change (_ && _ && ppu.mask.showBackground && ppu.mask.showSprites && ppu.dotWithin _ 258)
          = _
        rw [backShown, frontShown, unclipped, Bool.and_true, Bool.and_true, Bool.and_true]
      rw [hits, and_iff_right back, and_iff_right front]
      simp only [Bool.and_eq_true]
      rw [and_and_and_comm, and_assoc]
    · have clear : Foreground.clear.candidate.isOpaque = false := rfl
      rw [if_neg front]
      dsimp only
      rw [clear, Bool.and_false, Bool.false_and]
      exact ⟨fun hit => absurd hit Bool.false_ne_true, fun both => absurd both.2.1 front⟩
  · have clear : Candidate.clear.isOpaque = false := rfl
    rw [if_neg back, clear, Bool.false_and, Bool.false_and]
    exact ⟨fun hit => absurd hit Bool.false_ne_true, fun both => absurd both.1 back⟩

/-- Whether the current dot is one of the picture that notes a hit. -/
def hitsNow (ppu : Ppu) : Bool :=
  ppu.visibleLine && ppu.dotWithin 1 257 && DotPhase.notesHit ppu

/-- By its pixel, a dot raises the flag where it hits and leaves it as it is elsewhere. -/
theorem zeroHit_drawn (ppu : Ppu) (slot : κ) :
    (DotPhase.drawn ppu slot).status.zeroHit
      = ((ppu.composing slot).status.zeroHit || (ppu.composing slot).hitsNow) := by
  have front := signals_blind.spriteForeground (ppu.composing slot)
  change ((ppu.composing slot).makePixel slot).2.status.zeroHit = _
  generalize ppu.composing slot = composing at front ⊢
  have kept : composing.spriteForeground.2.status.zeroHit = composing.status.zeroHit :=
    congrArg Signals.zeroHit front
  rw [DotPhase.makePixel_snd, hitsNow]
  by_cases drawn : (composing.visibleLine && composing.dotWithin 1 257) = true
  · rw [if_pos drawn, drawn, Bool.true_and, DotPhase.compose_snd]
    split
    next hit => rw [hit, Bool.or_true]
    next miss => rw [kept, Bool.eq_false_iff.2 miss, Bool.or_false]
  · rw [if_neg drawn, Bool.eq_false_iff.2 drawn, Bool.false_and, Bool.or_false]

namespace StandsAt

variable {ppu : Ppu} {place : Nat} (here : StandsAt ppu place) (slot : κ)

include here

/-- Up to the pixel, only the second dot of a frame takes the flag back. -/
theorem zeroHit_composing :
    (ppu.composing slot).status.zeroHit = (ppu.status.zeroHit && place != 1) := by
  have blank : Keeps (·.status.zeroHit) beginBlank := Keeps.when fun _ => rfl
  rw [Ppu.composing]
  refine (blank _).trans ?_
  by_cases renders : ppu.rendersLine = true
  · obtain ⟨found, -, shown⟩ := here.signals_renderDot slot
    rw [if_pos renders]
    generalize ppu.renderDot slot = rendered at shown ⊢
    exact congrArg Signals.zeroHit shown
  · have below : (place != 1) = true := by
      rw [here.rendersLine_iff] at renders
      rw [bne_iff_ne]
      omega
    rw [if_neg renders, below, Bool.and_true]

/-- What a dot makes of the flag. -/
theorem zeroHit_clock :
    (ppu.clock slot).ppu.status.zeroHit
      = (ppu.status.zeroHit && place != 1 || (ppu.composing slot).hitsNow) := by
  rw [DotPhase.clock_ppu, ← here.zeroHit_composing slot, ← zeroHit_drawn]
  generalize DotPhase.drawn ppu slot = drawn
  exact congrArg Signals.zeroHit (signals_nextDot drawn)

end StandsAt

/-- What the first slot holds, as far as hits depend on it. -/
structure ZeroSlot where
  /-- It holds sprite zero. -/
  selected : Bool
  /-- It is in use. -/
  used : Bool
  /-- The dots that it waits for its column. -/
  waits : UInt8
  /-- The low plane. -/
  low : UInt8
  /-- The high plane. -/
  high : UInt8

/-- One dot of the first slot. -/
def ZeroSlot.shift (slot : ZeroSlot) : ZeroSlot :=
  if slot.used then
    if slot.waits = 0 then { slot with low := slot.low <<< 1, high := slot.high <<< 1 }
    else { slot with waits := slot.waits - 1 }
  else slot

namespace Sprites

/-- What the first slot holds. -/
def zeroSlot (sprites : Sprites) : ZeroSlot where
  selected := sprites.zeroSelected
  used := sprites.uses 0
  waits := sprites.slots[(0 : Fin 8)].x
  low := sprites.patternLow[(0 : Fin 8)]
  high := sprites.patternHigh[(0 : Fin 8)]

/-- The first slot moves by itself. -/
theorem zeroSlot_shift (sprites : Sprites) : sprites.shift.zeroSlot = sprites.zeroSlot.shift := by
  by_cases none : sprites.count = 0
  · have unused : sprites.zeroSlot.used = false := by
      change sprites.uses 0 = false
      rw [uses, none]
      rfl
    rw [shift, if_pos none, ZeroSlot.shift, unused]
    rfl
  · have used : sprites.uses (0 : Fin 8) = true := by
      rw [uses, decide_eq_true_iff]
      exact Nat.pos_of_ne_zero fun zero => none (UInt8.toNat_inj.1 zero)
    have inUse : sprites.zeroSlot.used = true := used
    have cell {α : Type} (make : Fin 8 → α) : (Vector.ofFn make)[(0 : Fin 8)] = make 0 :=
      Vector.getElem_ofFn (by decide)
    rw [shift, if_neg none, ZeroSlot.shift, if_pos inUse]
    by_cases arrived : sprites.slots[(0 : Fin 8)].x = 0
    · have come : sprites.zeroSlot.waits = 0 := arrived
      rw [if_pos come]
      simp only [zeroSlot, cell, used, arrived, countDown, beq_self_eq_true, Bool.and_self, if_true]
      rfl
    · have waiting : ¬sprites.zeroSlot.waits = 0 := arrived
      rw [if_neg waiting]
      simp only [zeroSlot, cell, used, arrived, countDown, Bool.true_and, beq_iff_eq, if_true,
        if_false]
      rfl

/-- The colour of the first slot is one of what hits depend on. -/
theorem colorOf_of_zeroSlot {left right : Sprites} (same : left.zeroSlot = right.zeroSlot) :
    left.colorOf 0 = right.colorOf 0 := by
  have used : left.uses 0 = right.uses 0 := congrArg ZeroSlot.used same
  have waits : left.slots[(0 : Fin 8)].x = right.slots[(0 : Fin 8)].x :=
    congrArg ZeroSlot.waits same
  have low : left.patternLow[(0 : Fin 8)] = right.patternLow[(0 : Fin 8)] :=
    congrArg ZeroSlot.low same
  have high : left.patternHigh[(0 : Fin 8)] = right.patternHigh[(0 : Fin 8)] :=
    congrArg ZeroSlot.high same
  have zero : ((0 : Fin 8) : Nat) = 0 := rfl
  rw [colorOf, colorOf, zero, used, waits, low, high]

end Sprites

/-- The picture chip with other sprites. -/
def withSprites (ppu : Ppu) (sprites : Sprites) : Ppu := { ppu with sprites }

/-- A move of the scroll word leaves the background pipeline alone. -/
theorem background_moveScroll (ppu : Ppu) (change : Scroll → Scroll) :
    (ppu.moveScroll change).background = ppu.background := by
  rw [moveScroll]
  split <;> rfl

/-- The background is fetched alike whatever the sprites are. -/
theorem background_fetchBackground_withSprites (ppu : Ppu) (slot : κ) (sprites : Sprites) :
    ((ppu.withSprites sprites).fetchBackground slot).background
      = (ppu.fetchBackground slot).background := by
  simp only [fetchBackground]
  have place : (ppu.withSprites sprites).dot = ppu.dot := rfl
  rw [place]
  split
  case h_5 =>
    rw [background_moveScroll, background_moveScroll]
    rfl
  all_goals rfl

/-- The background is shifted and fetched alike whatever the sprites are. -/
theorem background_shiftPipelines_withSprites (ppu : Ppu) (slot : κ) (sprites : Sprites) :
    ((ppu.withSprites sprites).shiftPipelines.fetchBackground slot).background
      = (ppu.shiftPipelines.fetchBackground slot).background := by
  have moved : (ppu.withSprites sprites).shiftPipelines
      = ppu.shiftPipelines.withSprites (ppu.withSprites sprites).shiftPipelines.sprites := by
    rw [shiftPipelines_eq, shiftPipelines_eq]
    rfl
  rw [moved, background_fetchBackground_withSprites]

namespace StandsAt

variable {ppu : Ppu} {place : Nat} (here : StandsAt ppu place) (slot : κ)

include here

/-- While a line is drawn, the background is what the pipelines make of it. -/
theorem background_composing (renders : place < 341 * 241) (later : 2 ≤ place % 341)
    (drawing : place % 341 ≤ 256) :
    (ppu.composing slot).background = (ppu.shiftPipelines.fetchBackground slot).background := by
  have tiles := congrArg TileSide.background (here.tiles_composing slot renders later)
  have busy := here.runPipelines_of_busy slot (.inl ⟨later, by omega⟩)
  have there := here.runPipelines slot
  rw [busy] at tiles there
  refine tiles.trans ?_
  by_cases last : place % 341 = 256
  · rw [there.moveToNextLine_of_last slot last]
    exact background_moveScroll _ _
  · rw [there.moveToNextLine_of_idle slot last (by omega) (by omega) (by omega)]
    rfl

/-- In a dot of the picture the background is the same whatever the sprites are. -/
theorem background_composing_withSprites (renders : place < 341 * 241) (drawing : place % 341 ≤ 256)
    (sprites : Sprites) :
    ((ppu.withSprites sprites).composing slot).background = (ppu.composing slot).background := by
  have there : StandsAt (ppu.withSprites sprites) place := here.of_grid rfl
  by_cases early : place % 341 < 2
  · have tiles := (there.tiles_composing_of_early slot early).trans
      (here.tiles_composing_of_early slot early).symm
    exact congrArg TileSide.background tiles
  · rw [there.background_composing slot renders (by omega) drawing,
      here.background_composing slot renders (by omega) drawing,
      background_shiftPipelines_withSprites]

/-- What the first slot holds when the pixel is made. -/
theorem zeroSlot_composing (visible : 341 ≤ place) (renders : place < 341 * 241)
    (drawing : place % 341 ≤ 256) :
    (ppu.composing slot).sprites.zeroSlot
      = if 2 ≤ place % 341 ∧ ppu.mask.showSprites = true then ppu.sprites.zeroSlot.shift
        else ppu.sprites.zeroSlot := by
  change (ppu.composing slot).lineup.zeroSlot = _
  by_cases early : place % 341 < 2
  · rw [here.lineup_composing_of_early slot early (by omega), if_neg (by omega)]
    rfl
  · rw [here.lineup_composing_of_plain slot renders (by omega) (by omega) (by omega)]
    by_cases shown : ppu.mask.showSprites = true
    · rw [if_pos ⟨shown, by omega⟩, if_pos ⟨by omega, shown⟩, Sprites.zeroSlot_shift]
      rfl
    · rw [if_neg fun both => shown both.1, if_neg fun both => shown both.2]
      rfl

/-- Hits depend on the first slot only, and not on its attributes or on what was shown last. -/
theorem hitsNow_composing_withSprites {sprites : Sprites}
    (same : sprites.zeroSlot = ppu.sprites.zeroSlot) :
    ((ppu.withSprites sprites).composing slot).hitsNow = (ppu.composing slot).hitsNow := by
  have other : StandsAt (ppu.withSprites sprites) place := here.of_grid rfl
  have there := here.composing slot
  have otherThere : StandsAt ((ppu.withSprites sprites).composing slot) (place + ppu.leftOut) :=
    other.composing slot
  have left := here.leftOut_cases
  rw [Bool.eq_iff_iff, hitsNow, hitsNow, Bool.and_eq_true, Bool.and_eq_true, Bool.and_eq_true,
    Bool.and_eq_true, there.visibleLine_iff, there.dotWithin_iff 1 257 1 257 rfl rfl,
    otherThere.visibleLine_iff, otherThere.dotWithin_iff 1 257 1 257 rfl rfl]
  refine and_congr_right fun inPicture => ?_
  have visible : 341 ≤ place := by omega
  have renders : place < 341 * 241 := by omega
  have drawing : place % 341 ≤ 256 := by omega
  have held : ((ppu.withSprites sprites).composing slot).held = (ppu.composing slot).held :=
    (held_composing _ slot).trans (ppu.held_composing slot).symm
  have background := here.background_composing_withSprites slot renders drawing sprites
  have zero : ((ppu.withSprites sprites).composing slot).sprites.zeroSlot
      = (ppu.composing slot).sprites.zeroSlot := by
    rw [other.zeroSlot_composing slot visible renders drawing,
      here.zeroSlot_composing slot visible renders drawing]
    simp only [withSprites, same]
  have dot := Int16.toInt_inj.1 (otherThere.dot.trans there.dot.symm)
  have inside := (there.dotWithin_iff 1 258 1 258 rfl rfl).2 (by omega)
  have otherInside := (otherThere.dotWithin_iff 1 258 1 258 rfl rfl).2 (by omega)
  rw [notesHit_iff _ inside, notesHit_iff _ otherInside]
  generalize (ppu.withSprites sprites).composing slot = otherComposing at held background zero dot ⊢
  generalize ppu.composing slot = composing at held background zero dot ⊢
  have mask : otherComposing.mask = composing.mask := congrArg Held.mask held
  have fineX : otherComposing.fineX = composing.fineX := congrArg Held.fineX held
  have selected : otherComposing.sprites.zeroSelected = composing.sprites.zeroSelected :=
    congrArg ZeroSlot.selected zero
  rw [mask, fineX, selected, background, dot, Sprites.colorOf_of_zeroSlot zero]

/-- So a dot sets the flag alike whatever else the sprites are, drawn or not. -/
theorem zeroHit_clock_withSprites {sprites : Sprites} (draws : Bool)
    (same : sprites.zeroSlot = ppu.sprites.zeroSlot) :
    (((ppu.withSprites sprites).withDraws draws).clock slot).ppu.status.zeroHit
      = (ppu.clock slot).ppu.status.zeroHit := by
  have other : StandsAt (ppu.withSprites sprites) place := here.of_grid rfl
  have hit := here.hitsNow_composing_withSprites slot same
  have clocked := (other.zeroHit_clock slot).trans
    ((congrArg _ hit).trans (here.zeroHit_clock slot).symm)
  rw [clock_withDraws]
  generalize ((ppu.withSprites sprites).clock slot).ppu = after at clocked ⊢
  exact clocked

end StandsAt

end Nes.Ppu
