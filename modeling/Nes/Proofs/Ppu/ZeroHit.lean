import Nes.Proofs.Ppu.SpriteWalk
import Nes.Proofs.Ppu.ZeroSlot

/-!
# Sprite zero meets the background

The hit flag is decided upon by two notes, which sprite is in the first slot and which slot was
shown last, that are made at other dots than the one that sets it. On a run from a reset they come
to where sprite zero is (`MeetsZero`): the first slot holds it where it was on the line when the
sprites were selected, and shows a colour where it has come to the column. So the flag rises where
sprite zero meets the background in the picture, and nowhere else (`zeroHit_of_history`).
-/
namespace Nes.Ppu

variable {κ : Type} [CartridgeSide κ]

/-- Where sprite zero is on the line below, it is the first sprite there. -/
theorem spritesBelow_eq_cons {oam : Memory 256} {line height : Nat}
    (reached : (OamEntry.ofMemory oam 0).reaches line height = true) :
    ∃ rest, spritesBelow oam line height = OamEntry.ofMemory oam 0 :: rest := by
  have all : OamEntry.all oam
      = OamEntry.ofMemory oam 0 :: ((List.range 63).map Nat.succ).map (OamEntry.ofMemory oam) := by
    rw [OamEntry.all, List.range_succ_eq_map, List.map_cons]
  have first (later : List OamEntry) :
      (OamEntry.ofMemory oam 0 :: later).filter (·.reaches line height)
        = OamEntry.ofMemory oam 0 :: later.filter (·.reaches line height) :=
    List.filter_cons_of_pos reached
  rw [spritesBelow, all, first]
  exact ⟨_, List.take_succ_cons⟩

/-- A colour of two bits is opaque where one of them is set. -/
theorem pairOf_ne_zero_iff (high low : Bool) :
    Background.pairOf high low ≠ 0 ↔ low = true ∨ high = true := by
  cases high <;> cases low <;> decide

/-- Sprite zero shows a colour where it has come to the column and its pattern has one there. -/
theorem Lined.zero_iff {oam : Memory 256} {line height column : Nat}
    {pattern : OamEntry → Nat → UInt8} {sprites : Sprites}
    (lined : Lined (spritesBelow oam line height) pattern column sprites)
    (noted : sprites.zeroSelected = (OamEntry.ofMemory oam 0).reaches line height) :
    let zero := OamEntry.ofMemory oam 0
    sprites.zeroSelected = true ∧ sprites.colorOf 0 ≠ 0
      ↔ zero.reaches line height = true ∧
        (zero.x.toNat ≤ column ∧ column < zero.x.toNat + 8) ∧
        (bit (pattern zero 0) (7 - (column - zero.x.toNat)) = true ∨
          bit (pattern zero 1) (7 - (column - zero.x.toNat)) = true) := by
  intro zero
  rw [noted]
  refine and_congr_right fun reached => ?_
  obtain ⟨rest, first⟩ := spritesBelow_eq_cons reached
  rw [first] at lined
  have color : sprites.colorOf 0
      = if zero.x.toNat ≤ column ∧ column < zero.x.toNat + 8 then
          Background.pairOf (bit (pattern zero 1) (7 - (column - zero.x.toNat)))
            (bit (pattern zero 0) (7 - (column - zero.x.toNat)))
        else 0 :=
    lined.colorOf_eq 0 (Nat.zero_lt_succ _)
  rw [color]
  by_cases here : zero.x.toNat ≤ column ∧ column < zero.x.toNat + 8
  · rw [if_pos here, pairOf_ne_zero_iff, and_iff_right here]
  · rw [if_neg here]
    exact ⟨fun solid => absurd rfl solid, fun both => absurd both.1 here⟩

/-- Sprite zero meets the background at a dot of the line below `line`: both sides are shown there,
also at the left edge, and have a colour. Sprite zero is what it was when the sprites of the line
were selected, 84 dots before the line began, with the pattern that was fetched in the last dot
before it; and it has waited for its column, and then moved out its pattern, at those dots of the
line that showed sprites. -/
def MeetsZero (chip : Nat → Ppu) (slot : Nat → κ) (time line dot : Nat) : Prop :=
  let now := chip time
  let composing := now.composing (slot time)
  let selecting := chip (time - dot - 84)
  let zero := OamEntry.ofMemory selecting.oam 0
  let plane := (chip (time - dot - 1)).spritePlane (slot (time - dot - 1)) zero
  let moves := movesBefore chip (time - dot) (dot + 1)
  now.mask.showBackground = true ∧ now.mask.showSprites = true ∧
    (dot ≤ 8 → now.mask.showBackgroundLeft = true ∧ now.mask.showSpritesLeft = true) ∧
    (composing.background.candidate composing.fineX).isOpaque = true ∧
    zero.reaches line selecting.control.spriteHeight = true ∧
    (zero.x.toNat ≤ moves ∧ moves < zero.x.toNat + 8) ∧
    (bit (plane 0) (7 - (moves - zero.x.toNat)) = true ∨
      bit (plane 8) (7 - (moves - zero.x.toNat)) = true)

namespace SpriteWalk

variable {chip : Nat → Ppu} {slot : Nat → κ} (walk : SpriteWalk chip slot)
  {time line dot : Nat} (here : StandsAt (chip time) (341 * (line + 2) + dot))
  (visible : line < 239)

include walk here visible

/-- The sprites of a line have been selected and fetched at known times. -/
theorem standsAt_before :
    84 + dot ≤ time ∧ StandsAt (chip (time - dot - 84)) (341 * (line + 1) + 257) ∧
      StandsAt (chip (time - dot - 1)) (341 * (line + 1) + 340) := by
  obtain ⟨enough, selecting⟩ := walk.standsAt_sub here (dot + 84) (by omega)
  obtain ⟨-, fetching⟩ := walk.standsAt_sub here (dot + 1) (by omega)
  rw [← Nat.sub_sub, show 341 * (line + 2) + dot - (dot + 84) = 341 * (line + 1) + 257 by omega]
    at selecting
  rw [← Nat.sub_sub, show 341 * (line + 2) + dot - (dot + 1) = 341 * (line + 1) + 340 by omega]
    at fetching
  exact ⟨by omega, selecting, fetching⟩

/-- On a line of the picture, a dot notes a hit just where sprite zero meets the background. -/
theorem notesHit_composing_iff (first : 1 ≤ dot) (last : dot ≤ 256) :
    DotPhase.notesHit ((chip time).composing (slot time)) = true
      ↔ MeetsZero chip slot time line dot := by
  obtain ⟨enough, selecting, -⟩ := walk.standsAt_before here visible
  obtain ⟨lined, noted⟩ := walk.lined selecting visible (dot + 1) (by omega)
  have begins : time - dot - 84 + 84 = time - dot := by omega
  have ended : time - dot - 84 + 83 = time - dot - 1 := by omega
  have after : time - dot + (dot + 1) = time + 1 := by omega
  rw [begins, ended, after, walk.lineup_succ] at lined
  rw [begins, after, walk.lineup_succ] at noted
  have place := here.composing (slot time)
  rw [here.leftOut_of_ne (by omega), Nat.add_zero] at place
  have inside : ((chip time).composing (slot time)).dotWithin 1 258 = true :=
    (place.dotWithin_iff 1 258 1 258 rfl rfl).2 (by omega)
  have edge : ((chip time).composing (slot time)).dot < 9 ↔ dot ≤ 8 := by
    rw [Int16.lt_iff_toInt_lt, place.dot]
    change _ < (9 : Int) ↔ _
    omega
  have mask : ((chip time).composing (slot time)).mask = (chip time).mask :=
    congrArg Held.mask ((chip time).held_composing (slot time))
  rw [notesHit_iff _ inside, edge, mask, MeetsZero]
  generalize (chip time).composing (slot time) = composing at lined noted ⊢
  have zero : composing.sprites.zeroSelected = true ∧ composing.sprites.colorOf 0 ≠ 0 ↔ _ :=
    lined.zero_iff noted
  rw [zero]
  constructor
  · rintro ⟨⟨background, backLeft⟩, ⟨sprites, frontLeft⟩, rest⟩
    exact ⟨background, sprites, fun early => ⟨backLeft early, frontLeft early⟩, rest⟩
  · rintro ⟨background, sprites, left, rest⟩
    exact ⟨⟨background, fun early => (left early).1⟩, ⟨sprites, fun early => (left early).2⟩, rest⟩

omit here visible

/-- A dot of the picture notes a hit where sprite zero meets the background, and nowhere else. The
first line of the picture has no sprites. -/
theorem hitsNow_composing_iff (time : Nat) :
    ((chip time).composing (slot time)).hitsNow = true
      ↔ ∃ line dot : Nat, line < 239 ∧ 1 ≤ dot ∧ dot ≤ 256 ∧
        (chip time).line.toInt = line + 1 ∧ (chip time).dot.toInt = dot ∧
        MeetsZero chip slot time line dot := by
  obtain ⟨place, here, empty⟩ := walk.onCourse time
  have there := here.composing (slot time)
  have left := here.leftOut_cases
  have line := here.line
  have dot := here.dot
  rw [hitsNow, Bool.and_eq_true, Bool.and_eq_true, there.visibleLine_iff,
    there.dotWithin_iff 1 257 1 257 rfl rfl]
  constructor
  · rintro ⟨⟨visible, inside⟩, noted⟩
    by_cases first : place + (chip time).leftOut < 682
    · have none := here.count_composing (slot time) (by omega) (by omega) fun later =>
        empty later (by omega)
      have solid := ((notesHit_iff _
        ((there.dotWithin_iff 1 258 1 258 rfl rfl).2 (by omega))).1 noted).2.2.2.2
      exact absurd (Sprites.colorOf_of_empty none 0) solid
    · obtain ⟨row, column, few, rfl⟩ : ∃ row column, column < 341 ∧
          place = 341 * (row + 2) + column := ⟨place / 341 - 2, place % 341, by omega, by omega⟩
      have below : row < 239 := by omega
      have meets := (walk.notesHit_composing_iff here below (by omega) (by omega)).1 noted
      exact ⟨row, column, below, by omega, by omega, by omega, by omega, meets⟩
  · rintro ⟨row, column, visible, first, last, sameLine, sameDot, meets⟩
    obtain rfl : place = 341 * (row + 2) + column := by omega
    have noted := (walk.notesHit_composing_iff here visible first last).2 meets
    exact ⟨by omega, noted⟩

/-- What a dot makes of the flag on a walk. -/
theorem zeroHit_clock_iff (time : Nat) :
    ((chip time).clock (slot time)).ppu.status.zeroHit = true
      ↔ (chip time).status.zeroHit = true ∧ ¬((chip time).line = -1 ∧ (chip time).dot = 1) ∨
        ∃ line dot : Nat, line < 239 ∧ 1 ≤ dot ∧ dot ≤ 256 ∧
          (chip time).line.toInt = line + 1 ∧ (chip time).dot.toInt = dot ∧
          MeetsZero chip slot time line dot := by
  obtain ⟨place, here, -⟩ := walk.onCourse time
  have falls : (place != 1) = true ↔ ¬((chip time).line = -1 ∧ (chip time).dot = 1) := by
    have second := here.isAt_iff (-1) 1 1 rfl rfl
    rw [isAt, Bool.and_eq_true, beq_iff_eq, beq_iff_eq] at second
    rw [bne_iff_ne, second]
  rw [here.zeroHit_clock (slot time), Bool.or_eq_true, Bool.and_eq_true, falls,
    walk.hitsNow_composing_iff time]

/-- When the sprites of a line in the picture were selected and fetched. -/
theorem prepared {time line dot : Nat} (visible : line < 239)
    (sameLine : (chip time).line.toInt = line + 1) (sameDot : (chip time).dot.toInt = dot) :
    84 + dot ≤ time ∧
      ((chip (time - dot - 84)).line.toInt = line ∧ (chip (time - dot - 84)).dot = 257) ∧
      ((chip (time - dot - 1)).line.toInt = line ∧ (chip (time - dot - 1)).dot = 340) := by
  obtain ⟨place, here, -⟩ := walk.onCourse time
  obtain rfl : place = 341 * (line + 2) + dot := by
    have stands := here.line.symm.trans sameLine
    have dots := here.dot.symm.trans sameDot
    omega
  obtain ⟨enough, selecting, fetching⟩ := walk.standsAt_before here visible
  refine ⟨enough, ⟨?_, ?_⟩, ⟨?_, ?_⟩⟩
  · rw [selecting.line]
    omega
  · apply Int16.toInt_inj.1
    rw [selecting.dot]
    change _ = (257 : Int)
    omega
  · rw [fetching.line]
    omega
  · apply Int16.toInt_inj.1
    rw [fetching.dot]
    change _ = (340 : Int)
    omega

end SpriteWalk

/-- On a run from a reset, whatever happens between the dots, a dot sets the hit flag where sprite
zero meets the background in the picture, and nowhere else. Once it is set, only the second dot of
line -1 clears it. The second line of the picture is the first that can have a hit, since the line
before the picture selects no sprites. Other sprites, the priority of sprite zero and the choice
whether to draw have no part in it: a dot sets the flag alike for all sprites that have the same in
their first slot. -/
theorem zeroHit_of_history (start : Ppu) (inserted : κ) (events : Nat → List (Event κ))
    (time : Nat) :
    let chip := fun time => (timeline events start.reset inserted time).1
    let slot := fun time => (timeline events start.reset inserted time).2
    (((chip time).clock (slot time)).ppu.status.zeroHit = true
      ↔ (chip time).status.zeroHit = true ∧ ¬((chip time).line = -1 ∧ (chip time).dot = 1) ∨
        ∃ line dot : Nat, line < 239 ∧ 1 ≤ dot ∧ dot ≤ 256 ∧
          (chip time).line.toInt = line + 1 ∧ (chip time).dot.toInt = dot ∧
          MeetsZero chip slot time line dot) ∧
    (∀ line dot : Nat, line < 239 →
      (chip time).line.toInt = line + 1 → (chip time).dot.toInt = dot →
      84 + dot ≤ time ∧
        ((chip (time - dot - 84)).line.toInt = line ∧ (chip (time - dot - 84)).dot = 257) ∧
        ((chip (time - dot - 1)).line.toInt = line ∧ (chip (time - dot - 1)).dot = 340)) ∧
    ∀ sprites draws, sprites.zeroSlot = (chip time).sprites.zeroSlot →
      ((((chip time).withSprites sprites).withDraws draws).clock (slot time)).ppu.status.zeroHit
        = ((chip time).clock (slot time)).ppu.status.zeroHit := by
  intro chip slot
  have walk : SpriteWalk chip slot := spriteWalk_timeline start _ events
  clear_value chip slot
  obtain ⟨place, here, -⟩ := walk.onCourse time
  exact ⟨walk.zeroHit_clock_iff time, fun _ _ => walk.prepared,
    fun _ => here.zeroHit_clock_withSprites (slot time)⟩

end Nes.Ppu
