import Nes.Proofs.Ppu.Stage

/-!
# The grid of dots

A frame is a grid of 262 lines of 341 dots. `Ppu.StandsAt` numbers its places in raster order, from
the first dot of line -1. Nothing but the end of a dot moves the chip over the grid, and the dot
that odd frames leave out: a dot goes on by one place, or by two from the first dot of the picture,
or from the last place back to the first (`StandsAt.clock`).
-/
namespace Nes.Ppu

variable {κ : Type} [CartridgeSide κ]

/-- The chip stands at a place of the frame. -/
structure StandsAt (ppu : Ppu) (place : Nat) : Prop where
  /-- The place lies on the grid. -/
  inside : place < 341 * 262
  /-- Lines are counted from -1. -/
  line : ppu.line.toInt = (place / 341 : Nat) - 1
  /-- Dots are counted from zero. -/
  dot : ppu.dot.toInt = (place % 341 : Nat)

/-- The next of small numbers. -/
theorem toInt_succ {number : Int16} (small : number.toInt < 32767) :
    (number + 1).toInt = number.toInt + 1 := by
  have low := number.le_toInt
  rw [Int16.toInt_add]
  change (number.toInt + 1).bmod (2 ^ 16) = number.toInt + 1
  apply Int.bmod_eq_of_le <;> omega

namespace StandsAt

variable {ppu : Ppu} {place : Nat} (here : StandsAt ppu place)

include here

/-- The dot lies in a range where its number does. -/
theorem dotWithin_iff (first last : Int16) (low high : Nat) (starts : first.toInt = low)
    (ends : last.toInt = high) :
    ppu.dotWithin first last = true ↔ low ≤ place % 341 ∧ place % 341 < high := by
  rw [dotWithin, Bool.and_eq_true, decide_eq_true_iff, decide_eq_true_iff,
    Int16.le_iff_toInt_le, Int16.lt_iff_toInt_lt, here.dot, starts, ends]
  omega

/-- The dot is the column of the place. -/
theorem dot_eq_iff (dot : Int16) (number : Nat) (same : dot.toInt = number) :
    (ppu.dot == dot) = true ↔ place % 341 = number := by
  rw [beq_iff_eq, ← Int16.toInt_inj, here.dot, same]
  omega

/-- The line is the row of the place, counted from -1. -/
theorem line_eq_iff (line : Int16) (number : Nat) (same : line.toInt = (number : Int) - 1) :
    (ppu.line == line) = true ↔ place / 341 = number := by
  rw [beq_iff_eq, ← Int16.toInt_inj, here.line, same]
  omega

/-- The chip is where it stands. -/
theorem isAt_iff (line dot : Int16) (target : Nat)
    (sameLine : line.toInt = ((target / 341 : Nat) : Int) - 1)
    (sameDot : dot.toInt = (target % 341 : Nat)) :
    ppu.isAt line dot = true ↔ place = target := by
  rw [isAt, Bool.and_eq_true, here.line_eq_iff line _ sameLine, here.dot_eq_iff dot _ sameDot]
  omega

/-- The pipelines run on the first 241 lines of the frame. -/
theorem rendersLine_iff : ppu.rendersLine = true ↔ place < 341 * 241 := by
  rw [rendersLine, Bool.and_eq_true, decide_eq_true_iff, decide_eq_true_iff,
    Int16.le_iff_toInt_le, Int16.lt_iff_toInt_lt, here.line]
  change (-1 : Int) ≤ _ ∧ _ < (240 : Int) ↔ _
  omega

/-- Pixels are made on the 240 lines behind the first one. -/
theorem visibleLine_iff : ppu.visibleLine = true ↔ 341 ≤ place ∧ place < 341 * 241 := by
  rw [visibleLine, Bool.and_eq_true, decide_eq_true_iff, decide_eq_true_iff,
    Int16.le_iff_toInt_le, Int16.lt_iff_toInt_lt, here.line]
  change (0 : Int) ≤ _ ∧ _ < (240 : Int) ↔ _
  omega

/-- The column of the picture that a dot is in. -/
theorem toNatClampNeg_dot (later : 1 ≤ place % 341) :
    (ppu.dot - 1).toNatClampNeg = place % 341 - 1 := by
  have difference : (ppu.dot - 1).toInt = (place % 341 - 1 : Nat) := by
    rw [Int16.toInt_sub, here.dot]
    change ((place % 341 : Nat) - (1 : Int)).bmod (2 ^ 16) = _
    rw [Int.bmod_eq_of_le] <;> omega
  rw [Int16.toNatClampNeg, difference, Int.toNat_natCast]

/-- The row of the picture that a line is. -/
theorem toNatClampNeg_line : ppu.line.toNatClampNeg = place / 341 - 1 := by
  rw [Int16.toNatClampNeg, here.line]
  omega

/-- A chip with the same line and dot stands at the same place. -/
theorem of_grid {other : Ppu} (same : other.grid = ppu.grid) : StandsAt other place where
  inside := here.inside
  line := by
    rw [show other.line = ppu.line from congrArg Grid.line same]
    exact here.line
  dot := by
    rw [show other.dot = ppu.dot from congrArg Grid.dot same]
    exact here.dot

end StandsAt

/-- Odd frames leave out the current dot. -/
def leavesOut (ppu : Ppu) : Bool := ppu.isAt 0 0 && ppu.oddFrame && ppu.mask.rendering

/-- To leave out a dot is to go on to dot 1. -/
theorem leaveOutDot_eq (ppu : Ppu) :
    ppu.leaveOutDot = if ppu.leavesOut then { ppu with dot := 1 } else ppu := rfl

/-- The work of a dot moves the chip over the grid where a dot is left out, and nowhere else. -/
theorem grid_composing (ppu : Ppu) (slot : κ) :
    (ppu.composing slot).grid = ppu.leaveOutDot.grid := by
  have blank := congrArg Prod.fst
    (stage_beginBlank (if ppu.rendersLine then ppu.renderDot slot else ppu))
  refine blank.trans ?_
  by_cases renders : ppu.rendersLine = true
  · have cleared : Keeps grid clearFlags := fun ppu =>
      congrArg Prod.fst (besideSprites_clearFlags ppu)
    have worked := ((cleared.andThen (grid_runPipelines slot)).andThen
      (grid_moveToNextLine slot)).andThen (grid_runSprites slot)
    rw [if_pos renders]
    exact worked ppu.leaveOutDot
  · have elsewhere : ¬ppu.leavesOut = true := by
      intro leaves
      simp only [leavesOut, isAt, Bool.and_eq_true, beq_iff_eq] at leaves
      apply renders
      rw [rendersLine, leaves.1.1.1]
      rfl
    rw [if_neg renders, leaveOutDot_eq, if_neg elsewhere]
    rfl

/-- The next place in raster order, but for the end of the frame. -/
theorem StandsAt.nextDot {ppu : Ppu} {place : Nat} (here : StandsAt ppu place)
    (more : place + 1 < 341 * 262) :
    StandsAt ppu.nextDot (place + 1) ∧ ppu.nextDot.oddFrame = ppu.oddFrame ∧
      ppu.nextDot.frameComplete = ppu.frameComplete := by
  have next : (ppu.dot + 1).toInt = (place % 341 : Nat) + 1 := by
    rw [toInt_succ, here.dot]
    rw [here.dot]
    omega
  have below : ppu.dot + 1 < 341 ↔ place % 341 < 340 := by
    rw [Int16.lt_iff_toInt_lt, next]
    change _ < (341 : Int) ↔ _
    omega
  rw [Ppu.nextDot]
  by_cases inLine : place % 341 < 340
  · rw [if_pos (below.2 inLine)]
    refine ⟨⟨more, ?_, ?_⟩, rfl, rfl⟩
    · change ppu.line.toInt = _
      rw [here.line]
      omega
    · change (ppu.dot + 1).toInt = _
      rw [next]
      omega
  · have line : (ppu.line + 1).toInt = (place / 341 : Nat) := by
      rw [toInt_succ, here.line]
      · omega
      · rw [here.line]
        omega
    have inFrame : ppu.line + 1 < 261 := by
      rw [Int16.lt_iff_toInt_lt, line]
      change _ < (261 : Int)
      omega
    rw [if_neg (mt below.1 inLine), if_pos inFrame]
    refine ⟨⟨more, ?_, ?_⟩, rfl, rfl⟩
    · change (ppu.line + 1).toInt = _
      rw [line]
      omega
    · change (0 : Int) = _
      omega

/-- After the last place of a frame the chip stands at the first one, and the frame is complete. -/
theorem StandsAt.nextDot_last {ppu : Ppu} (here : StandsAt ppu (341 * 262 - 1)) :
    StandsAt ppu.nextDot 0 ∧ ppu.nextDot.oddFrame = !ppu.oddFrame ∧
      ppu.nextDot.frameComplete = true := by
  have dot : ppu.dot = 340 := Int16.toInt_inj.1 here.dot
  have line : ppu.line = 260 := Int16.toInt_inj.1 here.line
  have last : ppu.nextDot
      = { ppu with dot := 0, line := -1, frameComplete := true, oddFrame := !ppu.oddFrame } := by
    rw [Ppu.nextDot, dot, line]
    rfl
  rw [last]
  exact ⟨⟨by decide, rfl, rfl⟩, rfl, rfl⟩

/-- The number of places that the current dot leaves out. -/
def leftOut (ppu : Ppu) : Nat := if ppu.leavesOut then 1 else 0

namespace StandsAt

variable {ppu : Ppu} {place : Nat} (here : StandsAt ppu place)

include here

/-- The dot that is left out is the first one of the picture, in an odd frame in which anything is
shown. -/
theorem leavesOut_iff :
    ppu.leavesOut = true ↔ place = 341 ∧ ppu.oddFrame = true ∧ ppu.mask.rendering = true := by
  rw [leavesOut, Bool.and_eq_true, Bool.and_eq_true, here.isAt_iff 0 0 341 rfl rfl, and_assoc]

/-- At most the first dot of the picture is left out. -/
theorem leftOut_cases : ppu.leftOut = 0 ∨ place = 341 ∧ ppu.leftOut = 1 := by
  rw [leftOut]
  split
  next leaves => exact .inr ⟨(here.leavesOut_iff.1 leaves).1, rfl⟩
  next => exact .inl rfl

/-- No other place is left out. -/
theorem leftOut_of_ne (other : place ≠ 341) : ppu.leftOut = 0 :=
  here.leftOut_cases.resolve_right fun first => other first.1

/-- At all other places the chip leaves out nothing. -/
theorem leaveOutDot_of_ne (other : place ≠ 341) : ppu.leaveOutDot = ppu := by
  rw [leaveOutDot_eq, if_neg fun leaves => other (here.leavesOut_iff.1 leaves).1]

/-- A place is the last one of a frame, or the next one lies in the frame. -/
theorem last_or_more :
    place = 341 * 262 - 1 ∨ place + ppu.leftOut + 1 < 341 * 262 := by
  have inside := here.inside
  have left := here.leftOut_cases
  omega

/-- The pipelines do not move the chip. -/
theorem shiftPipelines : StandsAt ppu.shiftPipelines place := here.of_grid (grid_shiftPipelines ppu)

/-- Shifting and fetching leave the chip at its place. -/
theorem runPipelines (slot : κ) : StandsAt (ppu.runPipelines slot) place :=
  here.of_grid (grid_runPipelines slot ppu)

/-- The ends of a line leave the chip at its place. -/
theorem moveToNextLine (slot : κ) : StandsAt (ppu.moveToNextLine slot) place :=
  here.of_grid (grid_moveToNextLine slot ppu)

/-- Leaving out a dot takes the chip past it. -/
theorem leaveOutDot : StandsAt ppu.leaveOutDot (place + ppu.leftOut) := by
  rw [leaveOutDot_eq, leftOut]
  by_cases leaves : ppu.leavesOut = true
  · obtain ⟨rfl, -, -⟩ := here.leavesOut_iff.1 leaves
    rw [if_pos leaves, if_pos leaves]
    exact ⟨by omega, here.line, rfl⟩
  · rw [if_neg leaves, if_neg leaves]
    exact here

/-- Where the pixel of the current dot belongs. -/
theorem composing (slot : κ) : StandsAt (ppu.composing slot) (place + ppu.leftOut) :=
  here.leaveOutDot.of_grid (ppu.grid_composing slot)

/-- All that is done before the chip goes on leaves it at its place, or past the dot that is left
out. -/
theorem drawn (slot : κ) :
    StandsAt (DotPhase.drawn ppu slot) (place + ppu.leftOut) ∧
      (DotPhase.drawn ppu slot).oddFrame = ppu.oddFrame ∧
      (DotPhase.drawn ppu slot).frameComplete = ppu.frameComplete := by
  have grid : (DotPhase.drawn ppu slot).grid = ppu.leaveOutDot.grid :=
    (congrArg Prod.fst (ppu.stage_drawn slot)).trans (ppu.grid_composing slot)
  have left : ppu.leaveOutDot.oddFrame = ppu.oddFrame ∧
      ppu.leaveOutDot.frameComplete = ppu.frameComplete := by
    rw [leaveOutDot_eq]
    split <;> exact ⟨rfl, rfl⟩
  exact ⟨here.leaveOutDot.of_grid grid, (congrArg Grid.oddFrame grid).trans left.1,
    (congrArg Grid.frameComplete grid).trans left.2⟩

/-- A dot goes on in raster order. -/
theorem clock (slot : κ) (more : place + ppu.leftOut + 1 < 341 * 262) :
    StandsAt (ppu.clock slot).ppu (place + ppu.leftOut + 1) ∧
      (ppu.clock slot).ppu.oddFrame = ppu.oddFrame ∧
      (ppu.clock slot).ppu.frameComplete = ppu.frameComplete := by
  obtain ⟨there, odd, complete⟩ := here.drawn slot
  obtain ⟨next, sameOdd, sameComplete⟩ := there.nextDot more
  rw [DotPhase.clock_ppu]
  exact ⟨next, sameOdd.trans odd, sameComplete.trans complete⟩

end StandsAt

/-- The last dot of a frame goes back to the first place and completes the frame. -/
theorem StandsAt.clock_last {ppu : Ppu} (here : StandsAt ppu (341 * 262 - 1)) (slot : κ) :
    StandsAt (ppu.clock slot).ppu 0 ∧ (ppu.clock slot).ppu.oddFrame = !ppu.oddFrame ∧
      (ppu.clock slot).ppu.frameComplete = true := by
  have none := here.leftOut_of_ne (by decide)
  obtain ⟨there, odd, -⟩ := here.drawn slot
  rw [none] at there
  obtain ⟨first, otherOdd, complete⟩ := there.nextDot_last
  rw [DotPhase.clock_ppu]
  exact ⟨first, by rw [otherOdd, odd], complete⟩

/-- The chip and the slot after a number of dots. -/
def clocked (ppu : Ppu) (slot : κ) : Nat → Ppu × κ
  | 0 => (ppu, slot)
  | count + 1 =>
    let before := ppu.clocked slot count
    let clocked := before.1.clock before.2
    (clocked.ppu, clocked.slot)

variable (ppu : Ppu) (slot : κ)

/-- The last of some dots is clocked from where the others have led. -/
theorem clocked_ppu_succ (count : Nat) :
    (ppu.clocked slot (count + 1)).1
      = ((ppu.clocked slot count).1.clock (ppu.clocked slot count).2).ppu := by
  rw [clocked]

/-- No number of dots changes what only the processor writes. -/
theorem held_clocked (count : Nat) : (ppu.clocked slot count).1.held = ppu.held := by
  induction count with
  | zero => rfl
  | succ count ih =>
    rw [clocked_ppu_succ, held_clock, ih]

/-- What is shown stays the same over any number of dots. -/
theorem mask_clocked (count : Nat) : (ppu.clocked slot count).1.mask = ppu.mask :=
  congrArg Held.mask (ppu.held_clocked slot count)

/-- The control register stays the same over any number of dots. -/
theorem control_clocked (count : Nat) : (ppu.clocked slot count).1.control = ppu.control :=
  congrArg Held.control (ppu.held_clocked slot count)

/-- The frame is short by a dot. -/
def shortens (ppu : Ppu) : Bool := ppu.oddFrame && ppu.mask.rendering

/-- The number of places that a number of dots leaves out. -/
def leftOutWithin (ppu : Ppu) (place count : Nat) : Nat :=
  if ppu.shortens ∧ place ≤ 341 ∧ 341 < place + count then 1 else 0

/-- Within no dots nothing is left out. -/
theorem leftOutWithin_zero (place : Nat) : ppu.leftOutWithin place 0 = 0 := if_neg (by omega)

/-- With more dots no less is left out. -/
theorem leftOutWithin_le_succ (place count : Nat) :
    ppu.leftOutWithin place count ≤ ppu.leftOutWithin place (count + 1) := by
  unfold leftOutWithin
  by_cases short : ppu.shortens = true
  · simp only [short, true_and]
    split <;> split <;> omega
  · simp [short]

variable {ppu}

/-- The first dot of the picture is left out once, and the run goes on behind it. -/
theorem StandsAt.leftOutWithin_succ {place count : Nat} {later : Ppu}
    (there : StandsAt later (place + count + ppu.leftOutWithin place count))
    (odd : later.oddFrame = ppu.oddFrame) (mask : later.mask = ppu.mask) :
    ppu.leftOutWithin place count + later.leftOut = ppu.leftOutWithin place (count + 1) := by
  have leaves := there.leavesOut_iff
  rw [odd, mask, ← Bool.and_eq_true, ← shortens] at leaves
  rw [leftOut]
  simp only [leaves]
  unfold leftOutWithin
  by_cases short : ppu.shortens = true
  · simp only [short, true_and, and_true]
    split <;> split <;> split <;> omega
  · simp [short]

/-- A number of dots within a frame goes on in raster order. -/
theorem StandsAt.clocked {place : Nat} (here : StandsAt ppu place) (count : Nat)
    (more : place + count + ppu.leftOutWithin place count < 341 * 262) :
    StandsAt (ppu.clocked slot count).1 (place + count + ppu.leftOutWithin place count) ∧
      (ppu.clocked slot count).1.oddFrame = ppu.oddFrame ∧
      (ppu.clocked slot count).1.frameComplete = ppu.frameComplete := by
  induction count with
  | zero =>
    rw [leftOutWithin_zero]
    exact ⟨here, rfl, rfl⟩
  | succ count ih =>
    have fewer := ppu.leftOutWithin_le_succ place count
    obtain ⟨there, odd, complete⟩ := ih (by omega)
    have together := there.leftOutWithin_succ odd (ppu.mask_clocked slot count)
    have next : place + count + ppu.leftOutWithin place count
        + (ppu.clocked slot count).1.leftOut + 1
        = place + (count + 1) + ppu.leftOutWithin place (count + 1) := by
      omega
    obtain ⟨after, sameOdd, sameComplete⟩ :=
      there.clock (ppu.clocked slot count).2 (by omega)
    rw [next] at after
    rw [clocked_ppu_succ]
    exact ⟨after, sameOdd.trans odd, sameComplete.trans complete⟩

/-- The chip when it decides on the pixel of a dot of a run. -/
def composingAfter (ppu : Ppu) (slot : κ) (count : Nat) : Ppu :=
  (ppu.clocked slot count).1.composing (ppu.clocked slot count).2

/-- The chip that decides on a pixel has all that the processor wrote before the run. -/
theorem held_composingAfter (count : Nat) : (ppu.composingAfter slot count).held = ppu.held :=
  (held_composing _ _).trans (ppu.held_clocked slot count)

/-- Where the pixel of a dot of a run belongs. -/
theorem StandsAt.composingAfter {place : Nat} (here : StandsAt ppu place) (count : Nat)
    (more : place + count + ppu.leftOutWithin place count < 341 * 262) :
    StandsAt (ppu.composingAfter slot count)
      (place + count + ppu.leftOutWithin place (count + 1)) := by
  obtain ⟨there, odd, -⟩ := here.clocked slot count more
  have together := there.leftOutWithin_succ odd (ppu.mask_clocked slot count)
  have composing := there.composing (ppu.clocked slot count).2
  rwa [Nat.add_assoc, together] at composing

/-- The number of dots of a frame that come before a place of the picture. -/
def dotsBefore (ppu : Ppu) (place : Nat) : Nat := place - if ppu.shortens then 1 else 0

/-- The dots before a place of the picture lead to it, with the one that is left out. -/
theorem dotsBefore_add (place : Nat) (later : 342 ≤ place) :
    ppu.dotsBefore place + ppu.leftOutWithin 0 (ppu.dotsBefore place + 1) = place := by
  unfold dotsBefore leftOutWithin
  by_cases short : ppu.shortens = true
  · rw [if_pos short, if_pos ⟨short, by omega, by omega⟩]
    omega
  · rw [if_neg short, if_neg fun left => short left.1]
    rfl

end Nes.Ppu
