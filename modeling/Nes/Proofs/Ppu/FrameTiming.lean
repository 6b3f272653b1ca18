import Nes.Proofs.Ppu.FrameWalk
import Nes.Proofs.Ppu.Unseen

/-!
# The timing of a frame

The processor accesses the registers of the picture chip between its dots, at any dot and in any
number (`Ppu.interleaved`). Whatever it does there, a frame goes over all its places in order and is
complete after as many dots as it has places, or after one dot less on an odd frame where anything
is shown at the first dot of the picture. The cartridge is told about a line at one dot of it, and
what is shown at that dot decides whether it is. How often it has been told is seen by a slot that
counts (`Ppu.Tally`), which the chip can not tell from the slot itself.
-/
namespace Nes.Ppu

variable {κ : Type} [CartridgeSide κ]

/-- An access of the processor to a register. -/
inductive Access where
  /-- A read. -/
  | read (address : UInt16)
  /-- A write. -/
  | write (address : UInt16) (value : UInt8)

/-- The chip and the slot after an access. -/
def access (state : Ppu × κ) : Access → Ppu × κ
  | .read address => ((state.1.readRegister state.2 address).2, state.2)
  | .write address value => state.1.writeRegister state.2 address value

/-- The chip and the slot before a dot, with some accesses before each dot. -/
def interleaved (accesses : Nat → List Access) (ppu : Ppu) (slot : κ) : Nat → Ppu × κ
  | 0 => (accesses 0).foldl access (ppu, slot)
  | dot + 1 =>
    let before := interleaved accesses ppu slot dot
    let clocked := before.1.clock before.2
    (accesses (dot + 1)).foldl access (clocked.ppu, clocked.slot)

/-- The chip before a further dot has been clocked once more, and accessed after that. -/
theorem interleaved_succ (accesses : Nat → List Access) (ppu : Ppu) (slot : κ) (dot : Nat) :
    interleaved accesses ppu slot (dot + 1)
      = (accesses (dot + 1)).foldl access
        (((interleaved accesses ppu slot dot).1.clock (interleaved accesses ppu slot dot).2).ppu,
          ((interleaved accesses ppu slot dot).1.clock
            (interleaved accesses ppu slot dot).2).slot) :=
  rfl

/-- What one access keeps, any accesses keep. -/
theorem foldl_access_keeps (Holds : Ppu × κ → Prop)
    (kept : ∀ state request, Holds state → Holds (access state request)) {state : Ppu × κ}
    (holds : Holds state) (requests : List Access) : Holds (requests.foldl access state) := by
  induction requests generalizing state with
  | nil => exact holds
  | cons request requests ih => exact ih (kept state request holds)

/-- Accesses in any number do not reach the raster. -/
theorem raster_foldl_access (state : Ppu × κ) (requests : List Access) :
    (requests.foldl access state).1.raster = state.1.raster := by
  refine foldl_access_keeps (fun later => later.1.raster = state.1.raster) ?_ rfl requests
  intro later request same
  cases request with
  | read address => exact (later.1.raster_readRegister later.2 address).trans same
  | write address value => exact (later.1.raster_writeRegister later.2 address value).trans same

/-- A frame with accesses between its dots is a walk. -/
theorem frameWalk_interleaved (accesses : Nat → List Access) {ppu : Ppu} (slot : κ) {start : Nat}
    (early : start ≤ 341) (here : StandsAt ppu start) :
    FrameWalk (fun dot => (interleaved accesses ppu slot dot).1)
      (fun dot => (interleaved accesses ppu slot dot).2) start where
  early := early
  here := here.of_grid (congrArg Raster.grid (raster_foldl_access (ppu, slot) (accesses 0)))
  next dot := by rw [interleaved_succ, raster_foldl_access]

/-- The line and the dot. -/
def position (ppu : Ppu) : Int × Int := (ppu.line.toInt, ppu.dot.toInt)

/-- The positions that a dot goes over: the one where the chip stands, and the one that its pixel
belongs to, if that is another. -/
def positions (ppu : Ppu) (slot : κ) : List (Int × Int) :=
  if (ppu.composing slot).position = ppu.position then [ppu.position]
  else [ppu.position, (ppu.composing slot).position]

/-- The position of a place of the frame. -/
def positionOf (place : Nat) : Int × Int := ((place / 341 : Nat) - 1, (place % 341 : Nat))

/-- The positions of a frame, line by line. -/
def framePositions : List (Int × Int) := (List.range (341 * 262)).map positionOf

/-- Places have positions of their own. -/
theorem positionOf_inj {place other : Nat} (same : positionOf place = positionOf other) :
    place = other := by
  rw [positionOf, positionOf, Prod.mk.injEq] at same
  omega

/-- A chip on the grid is at the position of its place. -/
theorem StandsAt.position_eq {ppu : Ppu} {place : Nat} (here : StandsAt ppu place) :
    ppu.position = positionOf place := by
  rw [position, here.line, here.dot, positionOf]

/-- A dot goes over its place, and over the next one if it leaves out its own. -/
theorem StandsAt.positions_eq {ppu : Ppu} {place : Nat} (here : StandsAt ppu place) (slot : κ) :
    ppu.positions slot = (List.range' place (ppu.leftOut + 1)).map positionOf := by
  have there := (here.composing slot).position_eq
  rw [positions, here.position_eq, there]
  rcases here.leftOut_cases with none | ⟨-, one⟩
  · rw [none, Nat.add_zero, if_pos rfl]
    rfl
  · rw [one, if_neg]
    · rfl
    · intro same
      have impossible := positionOf_inj same
      omega

/-- The cartridge is told about the line in the current dot. -/
def tellsLine (ppu : Ppu) : Prop :=
  ppu.mask.rendering = true ∧ ppu.dot = 259 ∧ ppu.line < 240

instance (ppu : Ppu) : Decidable ppu.tellsLine :=
  inferInstanceAs (Decidable (_ ∧ _ ∧ _))

/-- The cartridge may be told about a line in dot 259 of it, from the line in front of the picture
to its last one. -/
theorem StandsAt.countsLine_iff {ppu : Ppu} {place : Nat} (here : StandsAt ppu place) :
    ppu.countsLine = true ↔ place % 341 = 259 ∧ place / 341 ≤ 240 := by
  have next : (ppu.dot + 1).toInt = (place % 341 : Nat) + 1 := by
    rw [toInt_succ, here.dot]
    rw [here.dot]
    omega
  rw [countsLine, Bool.and_eq_true, beq_iff_eq, decide_eq_true_iff, ← Int16.toInt_inj, next,
    Int16.lt_iff_toInt_lt, here.line]
  change _ = (260 : Int) ∧ _ < (240 : Int) ↔ _
  omega

/-- It is told there where anything is shown. -/
theorem StandsAt.tellsLine_iff {ppu : Ppu} {place : Nat} (here : StandsAt ppu place) :
    ppu.tellsLine ↔ ppu.mask.rendering = true ∧ place % 341 = 259 ∧ place / 341 ≤ 240 := by
  rw [tellsLine, ← Int16.toInt_inj, here.dot, Int16.lt_iff_toInt_lt, here.line]
  change _ ∧ _ = (259 : Int) ∧ _ < (240 : Int) ↔ _
  refine and_congr_right fun _ => ?_
  omega

/-- The dot that may be left out is not the one where the cartridge is told. -/
theorem StandsAt.slot_clock {ppu : Ppu} {place : Nat} (here : StandsAt ppu place) (slot : κ) :
    (ppu.clock slot).slot = if ppu.tellsLine then CartridgeSide.countLine slot else slot := by
  have counts := (here.drawn slot).1.countsLine_iff
  have left := here.leftOut_cases
  have same : (ppu.mask.rendering && (DotPhase.drawn ppu slot).countsLine) = true ↔
      ppu.tellsLine := by
    rw [Bool.and_eq_true, counts, here.tellsLine_iff]
    refine and_congr_right fun _ => ?_
    omega
  rw [DotPhase.clock_slot]
  simp only [same]

/-- A slot that counts how often it has been told about a line. -/
structure Tally (κ : Type) where
  /-- The slot. -/
  slot : κ
  /-- How often it has been told. -/
  told : Nat

instance : CartridgeSide (Tally κ) where
  readCharacter tally := CartridgeSide.readCharacter tally.slot
  writeCharacter tally address value :=
    ((CartridgeSide.writeCharacter tally.slot address value).1,
      { tally with slot := (CartridgeSide.writeCharacter tally.slot address value).2 })
  mirroring tally := CartridgeSide.mirroring tally.slot
  countLine tally := ⟨CartridgeSide.countLine tally.slot, tally.told + 1⟩

/-- The chip does not see the count. -/
theorem unseen_slot : Unseen (Tally.slot : Tally κ → κ) where
  readCharacter _ _ := rfl
  writeCharacter _ _ _ := rfl
  mirroring _ := rfl
  countLine _ := rfl

/-- What the chip does not see in the slot changes nothing in a frame with accesses. -/
theorem Unseen.interleaved {κ' : Type} [CartridgeSide κ'] {change : κ → κ'}
    (unseen : Unseen change) (accesses : Nat → List Access) (ppu : Ppu) (slot : κ) (dot : Nat) :
    Ppu.interleaved accesses ppu (change slot) dot
      = ((Ppu.interleaved accesses ppu slot dot).1,
        change (Ppu.interleaved accesses ppu slot dot).2) := by
  have accessed (state : Ppu × κ) (requests : List Access) :
      requests.foldl access (state.1, change state.2)
        = ((requests.foldl access state).1, change (requests.foldl access state).2) := by
    induction requests generalizing state with
    | nil => rfl
    | cons request requests ih =>
      have first : access (state.1, change state.2) request
          = ((access state request).1, change (access state request).2) := by
        cases request with
        | read address =>
          exact congrArg (fun outcome : UInt8 × Ppu => (outcome.2, change state.2))
            (unseen.readRegister state.1 state.2 address)
        | write address value => exact unseen.writeRegister state.1 state.2 address value
      rw [List.foldl_cons, List.foldl_cons, first, ih]
  induction dot with
  | zero => exact accessed (ppu, slot) (accesses 0)
  | succ dot ih =>
    have clocked := unseen.clock (Ppu.interleaved accesses ppu slot dot).1
      (Ppu.interleaved accesses ppu slot dot).2
    rw [interleaved_succ, interleaved_succ, ih, clocked]
    exact accessed (_, _) (accesses (dot + 1))

/-- Accesses tell the cartridge about no line. -/
theorem told_foldl_access (state : Ppu × Tally κ) (requests : List Access) :
    (requests.foldl access state).2.told = state.2.told := by
  refine foldl_access_keeps (fun later : Ppu × Tally κ => later.2.told = state.2.told) ?_ rfl
    requests
  intro later request same
  cases request with
  | read address => exact same
  | write address value =>
    change (later.1.writeRegister later.2 address value).2.told = state.2.told
    rcases later.1.slot_writeRegister later.2 address value with kept | stored
    · rw [kept, same]
    · rw [stored]
      exact same

/-- The number of dots of a frame, given the chip at the first dot of the picture. -/
def frameDots (first : Ppu) : Nat := if first.shortens then 341 * 262 - 1 else 341 * 262

/-- The timing of a frame, given the chip that starts it, the chip and the slot before each of its
dots, and how often the cartridge has been told about a line before each of them. -/
structure TimesFrame (start : Ppu) (before : Nat → Ppu × κ) (told : Nat → Nat) : Prop where
  /-- The first dot of the picture is clocked behind the 341 dots of line -1. -/
  picture : (before 341).1.position = (0, 0)
  /-- The frame is complete behind its last dot, and not before. -/
  complete : ∀ dot < frameDots (before 341).1,
    ((before dot).1.clock (before dot).2).ppu.frameComplete
      = decide (dot + 1 = frameDots (before 341).1)
  /-- The dots go over every position once, line by line. -/
  positions : (List.range (frameDots (before 341).1)).flatMap (fun dot =>
    (before dot).1.positions (before dot).2) = framePositions
  /-- Behind the last dot the chip is where the next frame starts. -/
  restart : ∀ dot, dot + 1 = frameDots (before 341).1 →
    ((before dot).1.clock (before dot).2).ppu.position = (-1, 0)
  /-- The next frame is odd where this one is not. -/
  parity : ∀ dot, dot + 1 = frameDots (before 341).1 →
    ((before dot).1.clock (before dot).2).ppu.oddFrame = !start.oddFrame
  /-- Each line from -1 to 239 has one dot where the cartridge may be told about it. -/
  once : ∀ line : Int, -1 ≤ line → line < 240 →
    ∃! dot, dot < frameDots (before 341).1 ∧ (before dot).1.position = (line, 259)
  /-- It is told there if anything is shown at that dot, and nowhere else. -/
  told : ∀ dot < frameDots (before 341).1,
    told (dot + 1) = told dot + if (before dot).1.tellsLine then 1 else 0

namespace FrameWalk

variable {chip : Nat → Ppu} {slot : Nat → κ} (walk : FrameWalk chip slot 0)

include walk

/-- A walk through a whole frame is at the first dot of the picture after 341 dots. -/
theorem standsAt_picture : StandsAt (chip 341) 341 := by
  have few := leftOutFrom_le chip 0
  have inside : 341 < dotsFrom chip 0 := by
    rw [dotsFrom]
    omega
  exact (walk.standsAt inside).1

/-- The chip at the first dot of the picture decides how many dots the frame has. -/
theorem dotsFrom_eq : dotsFrom chip 0 = frameDots (chip 341) := by
  have first := walk.standsAt_picture
  have leaves : (chip 341).leavesOut = (chip 341).shortens := by
    rw [Bool.eq_iff_iff, first.leavesOut_iff, shortens, Bool.and_eq_true]
    exact ⟨And.right, fun both => ⟨rfl, both⟩⟩
  rw [dotsFrom, leftOutFrom, leftOut, frameDots, leaves]
  split <;> rfl

/-- The dots of a frame go over every position once, line by line. -/
theorem flatMap_positions :
    (List.range (dotsFrom chip 0)).flatMap (fun dot => (chip dot).positions (slot dot))
      = framePositions := by
  have places := walk.flatMap_range' (Nat.le_refl _)
  rw [placeFrom_dotsFrom walk.early] at places
  have visited := congrArg (List.map positionOf) places
  rw [List.map_flatMap, Nat.sub_zero, ← List.range_eq_range', ← framePositions] at visited
  rw [← visited]
  apply List.flatMap_congr
  intro dot inside
  exact (walk.standsAt (List.mem_range.1 inside)).1.positions_eq (slot dot)

/-- Behind the last dot the chip is at the first place again, on a frame of the other kind. -/
theorem restart {dot : Nat} (last : dot + 1 = dotsFrom chip 0) :
    ((chip dot).clock (slot dot)).ppu.position = (-1, 0) ∧
      ((chip dot).clock (slot dot)).ppu.oddFrame = !(chip 0).oddFrame := by
  obtain ⟨first, other, -⟩ := walk.clock_last
  rw [← last, Nat.add_sub_cancel] at first other
  exact ⟨first.position_eq, other⟩

/-- The frame is complete behind its last dot, and not before. -/
theorem frameComplete_clock (incomplete : (chip 0).frameComplete = false) {dot : Nat}
    (before : dot < dotsFrom chip 0) :
    ((chip dot).clock (slot dot)).ppu.frameComplete = decide (dot + 1 = dotsFrom chip 0) := by
  by_cases last : dot + 1 = dotsFrom chip 0
  · obtain ⟨-, -, complete⟩ := walk.clock_last
    rw [← last, Nat.add_sub_cancel] at complete
    rw [complete, decide_eq_true last]
  · have more : dot + 1 < dotsFrom chip 0 := by omega
    rw [decide_eq_false last, ← frameComplete_of_grid (walk.grid_next dot),
      (walk.standsAt more).2.2, incomplete]

/-- Each line from -1 to 239 has one dot where the cartridge may be told about it. -/
theorem existsUnique_position {line : Int} (first : -1 ≤ line) (last : line < 240) :
    ∃! dot, dot < dotsFrom chip 0 ∧ (chip dot).position = (line, 259) := by
  have few := leftOutFrom_le chip 0
  obtain ⟨row, rfl⟩ : ∃ row : Nat, line = row - 1 := ⟨(line + 1).toNat, by omega⟩
  have target : ((row : Int) - 1, (259 : Int)) = positionOf (341 * row + 259) := by
    rw [positionOf, Prod.mk.injEq]
    omega
  have at_iff {dot : Nat} (inside : dot < dotsFrom chip 0) :
      (chip dot).position = ((row : Int) - 1, 259)
        ↔ placeFrom chip 0 dot = 341 * row + 259 := by
    rw [target, (walk.standsAt inside).1.position_eq]
    exact ⟨positionOf_inj, congrArg positionOf⟩
  refine existsUnique_of_exists_of_unique ?_ ?_
  · -- behind the first dot of the picture, the places run ahead of the dots by the one left out
    by_cases inPicture : 1 ≤ row
    · have inside : 341 * row + 259 - leftOutFrom chip 0 < dotsFrom chip 0 := by
        rw [dotsFrom]
        omega
      refine ⟨_, inside, (at_iff inside).2 ?_⟩
      rw [placeFrom, if_pos (by omega)]
      omega
    · have inside : 341 * row + 259 < dotsFrom chip 0 := by
        rw [dotsFrom]
        omega
      refine ⟨_, inside, (at_iff inside).2 ?_⟩
      rw [placeFrom, if_neg (by omega)]
      omega
  · rintro left right ⟨leftInside, leftThere⟩ ⟨rightInside, rightThere⟩
    have same := ((at_iff leftInside).1 leftThere).trans ((at_iff rightInside).1 rightThere).symm
    exact placeFrom_inj same

end FrameWalk

/-- A walk from the first place on has the timing of a frame, if nothing between its dots tells the
cartridge about lines. -/
theorem FrameWalk.timesFrame {start : Ppu} {before : Nat → Ppu × κ} {told : Nat → Nat}
    (walk : FrameWalk (fun dot => (before dot).1) (fun dot => (before dot).2) 0)
    (grid : (before 0).1.grid = start.grid) (incomplete : start.frameComplete = false)
    (counted : ∀ dot place, StandsAt (before dot).1 place →
      told (dot + 1) = told dot + if (before dot).1.tellsLine then 1 else 0) :
    TimesFrame start before told := by
  have dots := walk.dotsFrom_eq
  have still := (frameComplete_of_grid grid).trans incomplete
  have odd := oddFrame_of_grid grid
  constructor
  case picture => exact walk.standsAt_picture.position_eq
  case complete =>
    rw [← dots]
    exact fun dot => walk.frameComplete_clock still
  case positions =>
    rw [← dots]
    exact walk.flatMap_positions
  case restart =>
    rw [← dots]
    exact fun dot last => (walk.restart last).1
  case parity =>
    rw [← dots, ← odd]
    exact fun dot last => (walk.restart last).2
  case once =>
    rw [← dots]
    exact fun line => walk.existsUnique_position
  case told =>
    rw [← dots]
    exact fun dot inside => counted dot _ (walk.standsAt inside).1

/-- The count goes up where the cartridge is told. -/
theorem told_interleaved_succ (accesses : Nat → List Access) {ppu : Ppu} (tally : Tally κ)
    {dot place : Nat} (there : StandsAt (interleaved accesses ppu tally dot).1 place) :
    (interleaved accesses ppu tally (dot + 1)).2.told
      = (interleaved accesses ppu tally dot).2.told
        + if (interleaved accesses ppu tally dot).1.tellsLine then 1 else 0 := by
  rw [interleaved_succ, told_foldl_access, there.slot_clock]
  split <;> rfl

/-- However the processor accesses the registers between the dots, a frame from its first place on
has the timing of a frame. Counting the lines that the cartridge is told about has no part in it. -/
theorem timesFrame_interleaved {ppu : Ppu} (line : ppu.line = -1) (dot : ppu.dot = 0)
    (incomplete : ppu.frameComplete = false) (slot : κ) (accesses : Nat → List Access) :
    let before := interleaved accesses ppu slot
    let tallied := interleaved accesses ppu (⟨slot, 0⟩ : Tally κ)
    (∀ dot, before dot = ((tallied dot).1, (tallied dot).2.slot)) ∧
      TimesFrame ppu before fun dot => (tallied dot).2.told := by
  intro before tallied
  have here : StandsAt ppu 0 := ⟨by decide, by rw [line]; rfl, by rw [dot]; rfl⟩
  have walk := frameWalk_interleaved accesses slot (Nat.zero_le 341) here
  have same (dot : Nat) : before dot = ((tallied dot).1, (tallied dot).2.slot) :=
    unseen_slot.interleaved accesses ppu (⟨slot, 0⟩ : Tally κ) dot
  have grid : (before 0).1.grid = ppu.grid :=
    congrArg Raster.grid (raster_foldl_access (ppu, slot) (accesses 0))
  refine ⟨same, FrameWalk.timesFrame walk grid incomplete ?_⟩
  intro dot place there
  rw [same dot] at there ⊢
  exact told_interleaved_succ accesses _ there

/-- So has an odd frame where the background is shown from just before the first dot of the picture
on, and half an address is written. -/
theorem timesFrame_interleaved_of_shown :
    let ppu := { Ppu.powerOn with line := -1, oddFrame := true }
    let accesses : Nat → List Access := fun dot =>
      if dot = 341 then [.write 0x2001 0x08, .write 0x2006 0x21, .read 0x2002] else []
    ppu.line = -1 ∧ ppu.dot = 0 ∧ ppu.frameComplete = false ∧
      TimesFrame ppu (interleaved accesses ppu (⟨.vertical, 0⟩ : OpenSlot)) fun dot =>
        (interleaved accesses ppu (⟨⟨.vertical, 0⟩, 0⟩ : Tally OpenSlot) dot).2.told :=
  ⟨rfl, rfl, rfl, (timesFrame_interleaved rfl rfl rfl (⟨.vertical, 0⟩ : OpenSlot) _).2⟩

end Nes.Ppu
