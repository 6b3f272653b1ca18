import Nes.Proofs.Ppu.FirstLine
import Nes.Proofs.Ppu.FrameTiming

/-!
# Sprites over any run

Between two dots of the picture chip the processor accesses registers, bytes are stored in sprite
memory, and the cartridge may change altogether (`Ppu.Event`). None of that moves the chip over the
grid or touches its sprite pipeline. So the chips from dot to dot of any run form a walk
(`Ppu.SpriteWalk`), on which the sprites of a line are known from few dots: they are selected at dot
257 of the line before, their patterns are fetched at its last dot, and from then on they move at
the dots that show sprites (`SpriteWalk.lined`).
-/
namespace Nes.Ppu

variable {κ : Type} [CartridgeSide κ]

/-- What may happen between two dots. -/
inductive Event (κ : Type) where
  /-- The processor accesses a register. -/
  | access (request : Access)
  /-- A byte is stored in sprite memory. -/
  | storeOam (index value : UInt8)
  /-- The cartridge slot changes. -/
  | insert (slot : κ)
  /-- The request for an interrupt is taken. -/
  | takeNmi
  /-- The end of a frame is taken notice of. -/
  | takeFrameComplete
  /-- It is chosen whether to draw. -/
  | choose (draws : Bool)

/-- The chip and the slot after an event. -/
def happen (state : Ppu × κ) : Event κ → Ppu × κ
  | .access request => access state request
  | .storeOam index value => (state.1.storeOam index value, state.2)
  | .insert slot => (state.1, slot)
  | .takeNmi => (state.1.takeNmi.2, state.2)
  | .takeFrameComplete => (state.1.takeFrameComplete.2, state.2)
  | .choose draws => (state.1.withDraws draws, state.2)

/-- The chip and the slot before a dot, with some events before each dot. -/
def timeline (events : Nat → List (Event κ)) (ppu : Ppu) (slot : κ) : Nat → Ppu × κ
  | 0 => (events 0).foldl happen (ppu, slot)
  | time + 1 =>
    let before := timeline events ppu slot time
    let clocked := before.1.clock before.2
    (events (time + 1)).foldl happen (clocked.ppu, clocked.slot)

/-- The chip before a further dot has been clocked once more, and what happens after that has
happened. -/
theorem timeline_succ (events : Nat → List (Event κ)) (ppu : Ppu) (slot : κ) (time : Nat) :
    timeline events ppu slot (time + 1)
      = (events (time + 1)).foldl happen
        (((timeline events ppu slot time).1.clock (timeline events ppu slot time).2).ppu,
          ((timeline events ppu slot time).1.clock (timeline events ppu slot time).2).slot) :=
  rfl

/-- Where the chip is, and the sprites that it has there. -/
structure Heading where
  /-- The line. -/
  line : Int16
  /-- The dot within the line. -/
  dot : Int16
  /-- The sprite pipeline. -/
  sprites : Sprites

/-- Where the chip is, and its sprites. -/
def heading (ppu : Ppu) : Heading := ⟨ppu.line, ppu.dot, ppu.sprites⟩

section Heading

variable {ppu other : Ppu}

/-- Where the chip is and its sprites are a part of the raster. -/
theorem heading_of_raster (same : other.raster = ppu.raster) : other.heading = ppu.heading :=
  congrArg (fun raster : Raster => (⟨raster.grid.line, raster.grid.dot, raster.sprites⟩ : Heading))
    same

variable (same : other.heading = ppu.heading)

include same

/-- Chips with one heading are on one line. -/
theorem line_of_heading : other.line = ppu.line := congrArg Heading.line same

/-- Chips with one heading are at one dot. -/
theorem dot_of_heading : other.dot = ppu.dot := congrArg Heading.dot same

/-- Chips with one heading have one sprite pipeline. -/
theorem sprites_of_heading : other.sprites = ppu.sprites := congrArg Heading.sprites same

/-- Chips with one heading stand at one place. -/
theorem StandsAt.of_heading {place : Nat} (here : StandsAt ppu place) : StandsAt other place where
  inside := here.inside
  line := by rw [line_of_heading same, here.line]
  dot := by rw [dot_of_heading same, here.dot]

/-- Chips with one heading are on course together. -/
theorem OnCourse.of_heading (course : OnCourse ppu) : OnCourse other :=
  course.congr (line_of_heading same) (dot_of_heading same)
    (congrArg Sprites.count (sprites_of_heading same))

/-- Chips with one heading have one line-up of sprites. -/
theorem lineup_of_heading : other.lineup = ppu.lineup :=
  congrArg Sprites.unmarked (sprites_of_heading same)

end Heading

/-- No event reaches the sprites. -/
theorem heading_happen (state : Ppu × κ) (event : Event κ) :
    (happen state event).1.heading = state.1.heading := by
  cases event with
  | access request =>
    cases request with
    | read address => exact heading_of_raster (state.1.raster_readRegister state.2 address)
    | write address value =>
      exact heading_of_raster (state.1.raster_writeRegister state.2 address value)
  | storeOam | insert | takeNmi | takeFrameComplete | choose => rfl

/-- What happens between two dots does not move the chip or reach its sprites. -/
theorem heading_foldl_happen (state : Ppu × κ) (events : List (Event κ)) :
    (events.foldl happen state).1.heading = state.1.heading := by
  induction events generalizing state with
  | nil => rfl
  | cons event events ih => exact (ih (happen state event)).trans (heading_happen state event)

/-- The note whether sprite zero is selected does not move. -/
theorem Sprites.zeroSelected_shift (sprites : Sprites) :
    sprites.shift.zeroSelected = sprites.zeroSelected := by
  rw [shift]
  split <;> rfl

/-- Chips and slots from dot to dot of a run that starts at the first dot of the picture, with
nothing between two dots that reaches the sprites. -/
structure SpriteWalk (chip : Nat → Ppu) (slot : Nat → κ) : Prop where
  /-- The first chip is at the first dot of the picture. -/
  here : StandsAt (chip 0) 341
  /-- No sprites are selected there. -/
  empty : (chip 0).sprites.count = 0
  /-- The sprites go on by dots. -/
  next : ∀ time, (chip (time + 1)).heading = ((chip time).clock (slot time)).ppu.heading

/-- Any run from a reset is a walk. -/
theorem spriteWalk_timeline (start : Ppu) (slot : κ) (events : Nat → List (Event κ)) :
    SpriteWalk (fun time => (timeline events start.reset slot time).1)
      fun time => (timeline events start.reset slot time).2 := by
  have first := heading_foldl_happen (start.reset, slot) (events 0)
  have reset : StandsAt start.reset 341 := ⟨by decide, rfl, rfl⟩
  constructor
  case here => exact reset.of_heading first
  case empty => exact congrArg Sprites.count (sprites_of_heading first)
  case next =>
    intro time
    rw [timeline_succ, heading_foldl_happen]

/-- A chip is at one place. -/
theorem StandsAt.place_inj {ppu : Ppu} {place other : Nat} (here : StandsAt ppu place)
    (there : StandsAt ppu other) : place = other := by
  have line := here.line.symm.trans there.line
  have dot := here.dot.symm.trans there.dot
  omega

namespace SpriteWalk

variable {chip : Nat → Ppu} {slot : Nat → κ} (walk : SpriteWalk chip slot)

include walk

/-- The chip keeps its course. -/
theorem onCourse (time : Nat) : OnCourse (chip time) := by
  induction time with
  | zero => exact ⟨341, walk.here, fun _ _ => walk.empty⟩
  | succ time ih => exact (ih.clock (slot time)).of_heading (walk.next time)

/-- The chip goes over the grid. -/
theorem standsAt_succ {time place : Nat} (there : StandsAt (chip time) place) (later : 341 < place)
    (more : place + 1 < 341 * 262) : StandsAt (chip (time + 1)) (place + 1) := by
  have stays := there.leftOut_of_ne later.ne'
  have after := (there.clock (slot time) (by omega)).1
  rw [stays] at after
  exact after.of_heading (walk.next time)

/-- A place behind the start of the picture is come to from the one before it. -/
theorem standsAt_pred {time place : Nat} (there : StandsAt (chip time) place)
    (later : 343 < place) : 0 < time ∧ StandsAt (chip (time - 1)) (place - 1) := by
  rcases time with _ | time
  · exact absurd (walk.here.place_inj there) (by omega)
  · obtain ⟨from_, before, -⟩ := walk.onCourse time
    rw [Nat.add_sub_cancel]
    refine ⟨Nat.succ_pos time, ?_⟩
    rcases before.last_or_more with rfl | more
    · have first := (before.clock_last (slot time)).1.of_heading (walk.next time)
      exact absurd (first.place_inj there) (by omega)
    · have after := (before.clock (slot time) more).1.of_heading (walk.next time)
      have same := after.place_inj there
      have left := before.leftOut_cases
      have step : from_ = place - 1 := by omega
      rwa [step] at before

/-- Behind the first dots of the picture, the place of the chip tells where it was some dots
before. -/
theorem standsAt_sub {time place : Nat} (there : StandsAt (chip time) place) (count : Nat)
    (later : 343 + count ≤ place) :
    count ≤ time ∧ StandsAt (chip (time - count)) (place - count) := by
  induction count with
  | zero => exact ⟨Nat.zero_le time, there⟩
  | succ count ih =>
    obtain ⟨enough, back⟩ := ih (by omega)
    obtain ⟨more, before⟩ := walk.standsAt_pred back (by omega)
    exact ⟨by omega, before⟩

/-- What a dot makes of the sprites is there before the next one. -/
theorem lineup_succ (time : Nat) :
    (chip (time + 1)).lineup = ((chip time).composing (slot time)).lineup :=
  (lineup_of_heading (walk.next time)).trans (sides_clock (chip time) (slot time)).2

section Line

variable {time line : Nat} (here : StandsAt (chip time) (341 * (line + 1) + 257))
  (visible : line < 239)

include here visible

/-- From where its sprites are selected, a line is gone over to its end dot by dot, since no dot is
left out there. -/
theorem standsAt_of_line (count : Nat) (within : count ≤ 341) :
    StandsAt (chip (time + count)) (341 * (line + 1) + 257 + count) := by
  induction count with
  | zero => exact here
  | succ count ih =>
    have next := walk.standsAt_succ (ih (by omega)) (by omega) (by omega)
    exact next

/-- From the dot behind the picture to the end of the line the sprites of the next one are
selected, and sprite zero is among them if it is on that line. -/
theorem selected (count : Nat) (within : count < 83) :
    Selected (spritesBelow (chip time).oam line (chip time).control.spriteHeight)
        (chip (time + (count + 1))).lineup ∧
      (chip (time + (count + 1))).lineup.zeroSelected
        = (OamEntry.ofMemory (chip time).oam 0).reaches line
          (chip time).control.spriteHeight := by
  induction count with
  | zero =>
    have same : (chip time).line.toInt = line := by
      rw [here.line]
      omega
    obtain ⟨sprites, selects⟩ :=
      here.lineup_composing_of_select (slot time) (by omega) (by omega) (by omega)
    rw [walk.lineup_succ, selects]
    exact ⟨selected_select sprites _ same _, OamEntry.covers_eq _ same _⟩
  | succ count ih =>
    have there := walk.standsAt_of_line here visible (count + 1) (by omega)
    rw [← Nat.add_assoc, walk.lineup_succ,
      there.lineup_composing_of_plain _ (by omega) (by omega) (by omega) (by omega),
      if_neg (by omega)]
    exact ih (by omega)

end Line

end SpriteWalk

/-- How many dots of a line move its sprites, up to one of them: those from the third on that show
sprites. The line begins at a time. -/
def movesBefore (chip : Nat → Ppu) (start count : Nat) : Nat :=
  (List.range count).countP fun dot => 2 ≤ dot && (chip (start + dot)).mask.showSprites

/-- One dot more moves the sprites if it is behind the second one and sprites are shown. -/
theorem movesBefore_succ (chip : Nat → Ppu) (start count : Nat) :
    movesBefore chip start (count + 1)
      = movesBefore chip start count
        + if 2 ≤ count ∧ (chip (start + count)).mask.showSprites = true then 1 else 0 := by
  rw [movesBefore, List.range_succ, List.countP_append, List.countP_singleton, movesBefore]
  simp only [Bool.and_eq_true, decide_eq_true_eq]

namespace SpriteWalk

variable {chip : Nat → Ppu} {slot : Nat → κ} (walk : SpriteWalk chip slot)
  {time line : Nat} (here : StandsAt (chip time) (341 * (line + 1) + 257)) (visible : line < 239)

include walk here visible

/-- On the next line, the sprites have moved at the dots that showed sprites. -/
theorem lined (count : Nat) (within : count ≤ 257) :
    Lined (spritesBelow (chip time).oam line (chip time).control.spriteHeight)
        (fun entry plane =>
          (chip (time + 83)).spritePlane (slot (time + 83)) entry (if plane = 0 then 0 else 8))
        (movesBefore chip (time + 84) count) (chip (time + 84 + count)).lineup ∧
      (chip (time + 84 + count)).lineup.zeroSelected
        = (OamEntry.ofMemory (chip time).oam 0).reaches line
          (chip time).control.spriteHeight := by
  induction count with
  | zero =>
    have there := walk.standsAt_of_line here visible 83 (by omega)
    obtain ⟨selected, zero⟩ := walk.selected here visible 82 (by omega)
    have ends : (chip (time + 84)).lineup = _ := walk.lineup_succ (time + 83)
    rw [Nat.add_zero, ends, there.lineup_composing_of_fetch _ (by omega) (by omega)]
    exact ⟨selected.fetched _, zero⟩
  | succ count ih =>
    have there := walk.standsAt_of_line here visible (84 + count) (by omega)
    obtain ⟨lined, zero⟩ := ih (by omega)
    rw [← Nat.add_assoc] at there ⊢
    rw [walk.lineup_succ, movesBefore_succ]
    by_cases early : count < 2
    · rw [there.lineup_composing_of_early _ (by omega) (by omega), if_neg (by omega)]
      exact ⟨lined, zero⟩
    rw [there.lineup_composing_of_plain _ (by omega) (by omega) (by omega) (by omega)]
    by_cases shown : (chip (time + 84 + count)).mask.showSprites = true
    · rw [if_pos ⟨by omega, shown⟩, if_pos ⟨shown, by omega⟩]
      refine ⟨lined.shift, ?_⟩
      rw [Sprites.zeroSelected_shift]
      exact zero
    · rw [if_neg fun moves => shown moves.2, if_neg fun moves => shown moves.1]
      exact ⟨lined, zero⟩

end SpriteWalk

end Nes.Ppu
