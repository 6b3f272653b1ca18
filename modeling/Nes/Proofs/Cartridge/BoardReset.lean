import Nes.Proofs.Cartridge.BoardUse

/-!
# What a reset of a board leaves

A reset takes every register back to its power-on value, whatever has been done to the board, and
leaves its memory alone. On board 1 it also leaves the mirroring that the control register chose
last, although it takes the control register itself back. So a used board can not be told from a
fresh one with the same memory after a reset, except that board 1 goes on in its last mirroring
(`Board.indistinguishable_reset_iff`). Nothing that board 1 does depends on its mirroring, so that
is all that the two can ever differ in.
-/
namespace Nes

namespace Mmc1

/-- Board 1 without its choice of mirroring. -/
def unmirrored (board : Mmc1) : Mmc1 := { board with mirroring := none }

variable (board : Mmc1) (address : UInt16)

/-- A complete number does to the other registers what it does, whatever mirroring was chosen
before. -/
theorem commit_unmirrored (number : UInt8) :
    (board.unmirrored.commit address number).unmirrored
      = (board.commit address number).unmirrored := by
  have splits : board.unmirrored.splitsCharacter = board.splitsCharacter := rfl
  have control : board.unmirrored.control = board.control := rfl
  simp only [commit, setProgram, splits, control]
  split
  · rfl
  · split <;> rfl
  · split <;> rfl
  · split <;> rfl

/-- Bits on their way to a register do not see the mirroring either. -/
theorem writeSerial_unmirrored (value : UInt8) :
    (board.unmirrored.writeSerial address value).unmirrored
      = (board.writeSerial address value).unmirrored := by
  have committed := board.commit_unmirrored address
  have shift : board.unmirrored.shift = board.shift := rfl
  have count : board.unmirrored.count = board.count := rfl
  simp only [writeSerial, shift, count]
  split
  · rfl
  split
  · rfl
  · exact congrArg (fun board : Mmc1 => { board with shift := 0, count := 0 }) (committed _)

/-- The choice of mirroring has no part in what a write reaches, or in what it does to anything
else. -/
theorem write_unmirrored (value : UInt8) :
    (board.unmirrored.write address value).1 = (board.write address value).1 ∧
      (board.unmirrored.write address value).2.unmirrored
        = (board.write address value).2.unmirrored := by
  have loaded := board.writeSerial_unmirrored address value
  simp only [write]
  split
  · exact ⟨rfl, rfl⟩
  split
  · exact ⟨rfl, loaded⟩
  · exact ⟨rfl, rfl⟩

/-- A write to two boards that differ in it alone chooses one mirroring for both, or none. -/
theorem mirroring_write {left right : Mmc1} (same : left.unmirrored = right.unmirrored)
    (address : UInt16) (value : UInt8) :
    (left.write address value).2.mirroring = (right.write address value).2.mirroring ∨
      (left.write address value).2.mirroring = left.mirroring ∧
        (right.write address value).2.mirroring = right.mirroring := by
  have shift : left.shift = right.shift :=
    show left.unmirrored.shift = right.unmirrored.shift by rw [same]
  have count : left.count = right.count :=
    show left.unmirrored.count = right.unmirrored.count by rw [same]
  have committed (number : UInt8) :
      (left.commit address number).mirroring = (right.commit address number).mirroring ∨
        (left.commit address number).mirroring = left.mirroring ∧
          (right.commit address number).mirroring = right.mirroring := by
    rw [commit, commit]
    split
    · exact .inl rfl
    · right
      constructor <;> split <;> rfl
    · right
      constructor <;> split <;> rfl
    · right
      rw [setProgram, setProgram]
      constructor <;> split <;> rfl
  rw [write, write]
  split
  · exact .inr ⟨rfl, rfl⟩
  split
  · simp only [writeSerial, shift, count]
    split
    · exact .inr ⟨rfl, rfl⟩
    split
    · exact .inr ⟨rfl, rfl⟩
    · exact committed _
  · exact .inr ⟨rfl, rfl⟩

end Mmc1

namespace Board

/-- The board without the choice of mirroring that a reset leaves. -/
def unmirrored : Board → Board
  | mmc1 board => mmc1 board.unmirrored
  | board => board

/-- Nothing that is done to a board depends on the mirroring that it has chosen. -/
theorem after_unmirrored (board : Board) (action : Action) :
    (board.unmirrored.after action).unmirrored = (board.after action).unmirrored := by
  cases board
  case mmc1 board =>
    cases action with
    | write address value => exact congrArg mmc1 (board.write_unmirrored address value).2
    | countLine => rfl
    | acknowledge => rfl
    | reset => rfl
  all_goals rfl

/-- The answers of a board but for the mirroring do not depend on the choice left out. -/
theorem face_unmirrored (board : Board) :
    { board.unmirrored.face with mirroring := none } = { board.face with mirroring := none } := by
  cases board
  case mmc1 board =>
    have target : (fun address value => (board.unmirrored.write address value).1)
        = fun address value => (board.write address value).1 :=
      funext₂ fun address value => (board.write_unmirrored address value).1
    exact congrArg
      (fun target => (⟨board.readTarget, target, board.characterRead, board.characterWrite, none,
        false⟩ : Face)) target
  all_goals rfl

variable {left right : Board}

/-- Boards that differ in the choice left out do so after any common actions. -/
theorem run_unmirrored (same : left.unmirrored = right.unmirrored) (actions : List Action) :
    (left.run actions).unmirrored = (right.run actions).unmirrored := by
  induction actions generalizing left right with
  | nil => exact same
  | cons action actions ih =>
    apply ih
    rw [← after_unmirrored, same, after_unmirrored]

/-- They give the same answers but for the mirroring. -/
theorem face_run_of_unmirrored (same : left.unmirrored = right.unmirrored)
    (actions : List Action) :
    { (left.run actions).face with mirroring := none }
      = { (right.run actions).face with mirroring := none } := by
  rw [← face_unmirrored, run_unmirrored same actions, face_unmirrored]

/-- Boards that agree on the choice left out as well are one. -/
theorem eq_of_unmirrored (same : left.unmirrored = right.unmirrored)
    (mirroring : left.mirroring? = right.mirroring?) : left = right := by
  cases left <;> cases right
  case mmc1.mmc1 left right =>
    have others : left.unmirrored = right.unmirrored := Board.mmc1.inj same
    change left.mirroring = right.mirroring at mirroring
    calc
      mmc1 left = mmc1 { left.unmirrored with mirroring := left.mirroring } := rfl
      _ = mmc1 { right.unmirrored with mirroring := right.mirroring } := by
        rw [others, mirroring]
      _ = mmc1 right := rfl
  case nrom.nrom | uxrom.uxrom | cnrom.cnrom | mmc3.mmc3 | gxrom.gxrom => exact same
  all_goals cases same

/-- A write to either of two boards chooses one mirroring for both, or leaves both what they
have. -/
theorem mirroring?_after (same : left.unmirrored = right.unmirrored) (action : Action) :
    (left.after action).mirroring? = (right.after action).mirroring? ∨
      (left.after action).mirroring? = left.mirroring? ∧
        (right.after action).mirroring? = right.mirroring? := by
  cases left <;> cases right
  case mmc1.mmc1 left right =>
    cases action with
    | write address value =>
      exact Mmc1.mirroring_write (Board.mmc1.inj same) address value
    | countLine => exact .inr ⟨rfl, rfl⟩
    | acknowledge => exact .inr ⟨rfl, rfl⟩
    | reset => exact .inr ⟨rfl, rfl⟩
  case nrom.nrom | uxrom.uxrom | cnrom.cnrom | mmc3.mmc3 | gxrom.gxrom =>
    cases same
    exact .inl rfl
  all_goals cases same

/-- So it is after any common actions. -/
theorem mirroring?_run (same : left.unmirrored = right.unmirrored) (actions : List Action) :
    (left.run actions).mirroring? = (right.run actions).mirroring? ∨
      (left.run actions).mirroring? = left.mirroring? ∧
        (right.run actions).mirroring? = right.mirroring? := by
  -- once a write has chosen for both, they are one board from there on
  induction actions generalizing left right with
  | nil => exact .inr ⟨rfl, rfl⟩
  | cons action actions ih =>
    have stillSame : (left.after action).unmirrored = (right.after action).unmirrored :=
      run_unmirrored same [action]
    rcases mirroring?_after same action with chosen | ⟨leftKept, rightKept⟩
    · left
      exact congrArg (fun board => (board.run actions).mirroring?)
        (eq_of_unmirrored stillSame chosen)
    · rw [← leftKept, ← rightKept]
      exact ih stillSame

/-- The memory of a board, zeros where it has none. -/
def ram : Board → Memory 0x2000
  | mmc1 board => board.ram
  | mmc3 board => board.ram
  | _ => Memory.zeros _

/-- The board with other contents of its memory, if it has any. -/
def withRam : Board → Memory 0x2000 → Board
  | mmc1 board, ram => mmc1 { board with ram }
  | mmc3 board, ram => mmc3 { board with ram }
  | board, _ => board

/-- The board with the mirroring that it would go on in after a reset, which only board 1 does. -/
def goingOnIn : Board → Option Mirroring → Board
  | mmc1 board, mirroring => mmc1 { board with mirroring }
  | board, _ => board

/-- A reset leaves of a board its make, its memory and, on board 1, its mirroring. -/
theorem reset_eq {board fresh : Board}
    (made : ofNumber? board.number board.banks = some fresh) :
    board.reset = (fresh.withRam board.ram).goingOnIn board.mirroring? := by
  cases board <;> (rw [← Option.some.inj made]; rfl)

/-- Any use of a board leaves the number and the bank counts that a fresh board is made from. -/
theorem ofNumber?_run {number : UInt8} {banks : BankCounts} {fresh : Board}
    (made : ofNumber? number banks = some fresh) (actions : List Action) :
    ofNumber? (fresh.run actions).number (fresh.run actions).banks = some fresh := by
  have make := fresh.make_run actions
  have sameNumber : (fresh.run actions).number = fresh.number := congrArg BoardMake.number make
  have sameBanks : (fresh.run actions).banks = fresh.banks := congrArg BoardMake.banks make
  rw [sameNumber, sameBanks, number_of_ofNumber? made,
    (Cartridge.freshBoard_of_ofNumber? made).banks, made]

/-- Boards other than 1 have no mirroring to go on in. -/
theorem goingOnIn_of_number {board : Board} (other : board.number ≠ 1)
    (mirroring : Option Mirroring) : board.goingOnIn mirroring = board := by
  cases board
  case mmc1 board => exact absurd rfl other
  all_goals rfl

/-- Apart from its mirroring, a board that goes on in another one is the same. -/
theorem unmirrored_goingOnIn (board : Board) (mirroring : Option Mirroring) :
    (board.goingOnIn mirroring).unmirrored = board.unmirrored := by
  cases board <;> rfl

/-- Other memory on a board does not make it a board of another number. -/
theorem number_withRam (board : Board) (ram : Memory 0x2000) :
    (board.withRam ram).number = board.number := by
  cases board <;> rfl

/-- The memory on a board says nothing about its mirroring. -/
theorem mirroring?_withRam (board : Board) (ram : Memory 0x2000) :
    (board.withRam ram).mirroring? = board.mirroring? := by
  cases board <;> rfl

/-- The only fresh board with number 1 is board 1, and it mirrors horizontally. -/
theorem mirroring?_of_ofNumber?_one {banks : BankCounts} {fresh : Board}
    (made : ofNumber? 1 banks = some fresh) : fresh.mirroring? = some .horizontal := by
  rw [← Option.some.inj made]
  rfl

/-- A reset of board 1 leaves its mirroring. -/
theorem mirroring?_reset_of_number {board : Board} (one : board.number = 1) :
    board.reset.mirroring? = board.mirroring? := by
  cases board
  case mmc1 board => rfl
  all_goals cases one

/-- After any use and a reset, a board gives the answers of a fresh one with the same memory, also
after any further actions that both go through, but for the mirroring of board 1. That one stays
what it was at the reset until the board chooses again, where the fresh board is horizontal. So the
two can not be told apart just where the number is another or the mirroring was horizontal. -/
theorem indistinguishable_reset_iff {number : UInt8} {banks : BankCounts} {fresh : Board}
    (made : ofNumber? number banks = some fresh) (actions : List Action) :
    let used := fresh.run actions
    let again := fresh.withRam used.ram
    (Indistinguishable used.reset again ↔
      number ≠ 1 ∨ used.mirroring? = some .horizontal) ∧
    (∀ later : List Action,
      { (used.reset.run later).face with mirroring := none }
        = { (again.run later).face with mirroring := none }) ∧
    (number = 1 → ∀ later : List Action,
      (used.reset.run later).mirroring? = (again.run later).mirroring? ∨
        (used.reset.run later).mirroring? = used.mirroring? ∧
          (again.run later).mirroring? = some .horizontal) := by
  intro used again
  have left : used.reset = again.goingOnIn used.mirroring? := reset_eq (ofNumber?_run made actions)
  have same : used.reset.unmirrored = again.unmirrored := by
    rw [left, unmirrored_goingOnIn]
  have usedNumber : used.number = number :=
    (congrArg BoardMake.number (fresh.make_run actions)).trans (number_of_ofNumber? made)
  have againNumber : again.number = number :=
    (fresh.number_withRam _).trans (number_of_ofNumber? made)
  have stays (one : number = 1) :
      used.reset.mirroring? = used.mirroring? ∧ again.mirroring? = some .horizontal := by
    subst one
    exact ⟨mirroring?_reset_of_number usedNumber,
      (fresh.mirroring?_withRam _).trans (mirroring?_of_ofNumber?_one made)⟩
  refine ⟨⟨?_, ?_⟩, face_run_of_unmirrored same, ?_⟩
  · intro alike
    by_cases one : number = 1
    · have shown : used.reset.mirroring? = again.mirroring? := congrArg Face.mirroring (alike [])
      obtain ⟨kept, fixed⟩ := stays one
      exact .inr (kept.symm.trans (shown.trans fixed))
    · exact .inl one
  · intro either later
    -- with one mirroring the two are one board, so no actions need to be followed
    have equal : used.reset = again := by
      rcases either with other | horizontal
      · rw [left, goingOnIn_of_number (againNumber ▸ other)]
      · by_cases one : number = 1
        · obtain ⟨kept, fixed⟩ := stays one
          exact eq_of_unmirrored same (kept.trans (horizontal.trans fixed.symm))
        · rw [left, goingOnIn_of_number (againNumber ▸ one)]
    rw [equal]
  · intro one later
    obtain ⟨kept, fixed⟩ := stays one
    rw [← kept, ← fixed]
    exact mirroring?_run same later

/-- A board of number 1 that was switched to vertical mirroring can be told from a fresh one after
its reset. -/
theorem indistinguishable_reset_iff_of_vertical :
    let fresh := mmc1 (.powerOn ⟨2, 1⟩)
    let used := fresh.run [.write 0x8000 0, .write 0x8000 1, .write 0x8000 0, .write 0x8000 0,
      .write 0x8000 0]
    ofNumber? 1 ⟨2, 1⟩ = some fresh ∧ used.mirroring? = some .vertical ∧
      ¬Indistinguishable used.reset (fresh.withRam used.ram) := by
  intro fresh used
  have vertical : used.mirroring? = some .vertical := by decide +kernel
  refine ⟨rfl, vertical, ?_⟩
  intro alike
  have made : ofNumber? 1 ⟨2, 1⟩ = some fresh := rfl
  have either : (1 : UInt8) ≠ 1 ∨ used.mirroring? = some .horizontal :=
    (indistinguishable_reset_iff made _).1.1 alike
  rcases either with other | horizontal
  · exact other rfl
  · cases vertical.symm.trans horizontal

end Board
end Nes
