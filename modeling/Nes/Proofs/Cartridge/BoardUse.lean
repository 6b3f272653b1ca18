import Nes.Proofs.Cartridge.Accepted

/-!
# Boards in use

A board by itself is used in four ways that can change it (`Board.Action`), and it answers a few
questions (`Board.Face`). Two boards of which no answer differs, now or after any actions common to
both, are the same to everyone who uses them (`Board.Indistinguishable`).
-/
namespace Nes.Board

/-- What can change a board. -/
inductive Action where
  /-- A processor write. -/
  | write (address : UInt16) (value : UInt8)
  /-- A line of the picture has been drawn. -/
  | countLine
  /-- The request for an interrupt is taken back. -/
  | acknowledge
  /-- A reset. -/
  | reset
deriving DecidableEq

/-- The board after an action. -/
def after (board : Board) : Action → Board
  | .write address value => (board.write address value).2
  | .countLine => board.countLine
  | .acknowledge => board.acknowledge
  | .reset => board.reset

/-- The board after actions in order. -/
def run (board : Board) (actions : List Action) : Board := actions.foldl after board

/-- No action changes the make of a board. -/
theorem make_after (board : Board) (action : Action) : (board.after action).make = board.make := by
  cases action with
  | write address value => exact board.make_write address value
  | countLine => exact board.make_countLine
  | acknowledge => exact board.make_acknowledge
  | reset => exact board.make_reset

/-- No actions turn a board into one of another make. -/
theorem make_run (board : Board) (actions : List Action) :
    (board.run actions).make = board.make := by
  induction actions generalizing board with
  | nil => rfl
  | cons action actions ih => exact (ih (board.after action)).trans (board.make_after action)

/-- The answers that a board can give. -/
structure Face where
  /-- What processor reads reach. -/
  readTarget : UInt16 → Option ReadTarget
  /-- What processor writes reach. -/
  writeTarget : UInt16 → UInt8 → Option WriteTarget
  /-- The character offsets of reads. -/
  characterRead : UInt16 → Option Nat
  /-- The character offsets of writes. -/
  characterWrite : UInt16 → Option Nat
  /-- The mirroring that the board chooses. -/
  mirroring : Option Mirroring
  /-- The board asks for an interrupt. -/
  irqPending : Bool

/-- The answers of a board. -/
def face (board : Board) : Face where
  readTarget := board.readTarget
  writeTarget address value := (board.write address value).1
  characterRead := board.characterRead
  characterWrite := board.characterWrite
  mirroring := board.mirroring?
  irqPending := board.irqPending

/-- Two boards answer alike, now and after any common actions. -/
def Indistinguishable (left right : Board) : Prop :=
  ∀ later : List Action, (left.run later).face = (right.run later).face

end Nes.Board
