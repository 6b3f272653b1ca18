import Nes.Cartridge.Basic

/-!
# Cartridges in use

Everything that the machine does to a cartridge is one of a few actions (`Cartridge.Action`). No
action changes the make of a cartridge: the kind of its board, the sizes of its memories and what
its image says of it (`Cartridge.make_run`). A property that every action keeps is kept by any
run of actions, and by every part of the machine that touches the cartridge.
-/
namespace Nes

/-- What no use of a board changes. -/
structure BoardMake where
  /-- The number of the board. -/
  number : UInt8
  /-- The bank counts that the board knows. -/
  banks : BankCounts
deriving DecidableEq

namespace Board

/-- The bank counts that a board knows. -/
def banks : Board → BankCounts
  | nrom board => board.banks
  | mmc1 board => board.banks
  | uxrom board => board.banks
  | cnrom board => board.banks
  | mmc3 board => board.banks
  | gxrom board => board.banks

/-- The make of a board. -/
def make (board : Board) : BoardMake := ⟨board.number, board.banks⟩

end Board

/-- The serial port of board 1 reaches no bank count. -/
theorem Mmc1.banks_writeSerial (board : Mmc1) (address : UInt16) (value : UInt8) :
    (board.writeSerial address value).banks = board.banks := by
  have committed (value : UInt8) : (board.commit address value).banks = board.banks := by
    rw [commit]
    split
    · rfl
    · split <;> rfl
    · split <;> rfl
    · rw [setProgram]
      split <;> rfl
  rw [writeSerial]
  split
  · rfl
  · dsimp only
    split
    · rfl
    · exact committed _

/-- No write to board 1 changes its bank counts. -/
theorem Mmc1.banks_write (board : Mmc1) (address : UInt16) (value : UInt8) :
    (board.write address value).2.banks = board.banks := by
  rw [write]
  split
  · rfl
  · split
    · exact board.banks_writeSerial address value
    · rfl

/-- No write to board 4 changes its bank counts. -/
theorem Mmc3.banks_write (board : Mmc3) (address : UInt16) (value : UInt8) :
    (board.write address value).2.banks = board.banks := by
  rw [write]
  split
  · rfl
  · split
    · rw [writeRegister]
      split <;> rfl
    · rfl

/-- No write to board 2 changes its bank counts. -/
theorem Uxrom.banks_write (board : Uxrom) (address : UInt16) (value : UInt8) :
    (board.write address value).2.banks = board.banks := by
  rw [write]
  dsimp only
  split <;> rfl

/-- No write to board 3 changes its bank counts. -/
theorem Cnrom.banks_write (board : Cnrom) (address : UInt16) (value : UInt8) :
    (board.write address value).2.banks = board.banks := by
  rw [write]
  dsimp only
  split <;> rfl

/-- No write to board 66 changes its bank counts. -/
theorem Gxrom.banks_write (board : Gxrom) (address : UInt16) (value : UInt8) :
    (board.write address value).2.banks = board.banks := by
  rw [write]
  dsimp only
  split <;> rfl

namespace Board

/-- A processor write does not change the make of a board. -/
theorem make_write (board : Board) (address : UInt16) (value : UInt8) :
    (board.write address value).2.make = board.make := by
  cases board
  case nrom board => rfl
  case mmc1 board => exact congrArg (BoardMake.mk 1) (board.banks_write address value)
  case uxrom board => exact congrArg (BoardMake.mk 2) (board.banks_write address value)
  case cnrom board => exact congrArg (BoardMake.mk 3) (board.banks_write address value)
  case mmc3 board => exact congrArg (BoardMake.mk 4) (board.banks_write address value)
  case gxrom board => exact congrArg (BoardMake.mk 66) (board.banks_write address value)

/-- A reset does not change the make of a board. -/
theorem make_reset (board : Board) : board.reset.make = board.make := by
  cases board <;> rfl

/-- An acknowledged request does not change the make of a board. -/
theorem make_acknowledge (board : Board) : board.acknowledge.make = board.make := by
  cases board <;> rfl

/-- A count of a line does not change the make of a board. -/
theorem make_countLine (board : Board) : board.countLine.make = board.make := by
  cases board <;> rfl

end Board

/-- The byte that an offset comes round to, as a partial look-up. -/
theorem wrappedGet_eq (memory : ByteArray) (offset : Nat) :
    wrappedGet memory offset = (memory.data[offset % memory.data.size]?).getD 0 := by
  by_cases nonempty : 0 < memory.size
  · have inside : offset % memory.data.size < memory.data.size := Nat.mod_lt _ nonempty
    rw [wrappedGet, dif_pos nonempty, Array.getElem?_eq_getElem inside]
    rfl
  · have outside : memory.data.size ≤ offset % memory.data.size := by
      change ¬0 < memory.data.size at nonempty
      omega
    rw [wrappedGet, dif_neg nonempty, Array.getElem?_eq_none outside]
    rfl

/-- A write to memory sets the cell that its offset comes round to, if there is any cell at all. -/
theorem data_wrappedSet (memory : ByteArray) (offset : Nat) (value : UInt8) :
    (wrappedSet memory offset value).data
      = memory.data.setIfInBounds (offset % memory.data.size) value := by
  by_cases nonempty : 0 < memory.size
  · have inside : offset % memory.data.size < memory.data.size := Nat.mod_lt _ nonempty
    rw [wrappedSet, dif_pos nonempty, Array.setIfInBounds_def, dif_pos inside]
    rfl
  · have outside : ¬offset % memory.data.size < memory.data.size := by
      change ¬0 < memory.data.size at nonempty
      omega
    rw [wrappedSet, dif_neg nonempty, Array.setIfInBounds_def, dif_neg outside]

/-- A write to memory does not change its size. -/
theorem size_wrappedSet (memory : ByteArray) (offset : Nat) (value : UInt8) :
    (wrappedSet memory offset value).size = memory.size := by
  change (wrappedSet memory offset value).data.size = memory.data.size
  rw [data_wrappedSet, Array.size_setIfInBounds]

/-- A read returns the byte stored last at an offset that comes round to the same place. -/
theorem wrappedGet_wrappedSet_of_same_cell {memory : ByteArray} (nonempty : 0 < memory.size)
    {written offset : Nat} (value : UInt8) (same : written % memory.size = offset % memory.size) :
    wrappedGet (wrappedSet memory written value) offset = value := by
  have inside : offset % memory.data.size < memory.data.size := Nat.mod_lt _ nonempty
  have place : written % memory.data.size = offset % memory.data.size := same
  rw [wrappedGet_eq, data_wrappedSet, Array.size_setIfInBounds, place,
    Array.getElem?_setIfInBounds_self_of_lt inside, Option.getD_some]

/-- A store leaves every other place as it was. -/
theorem wrappedGet_wrappedSet_of_other_cell {memory : ByteArray} {written offset : Nat}
    (value : UInt8) (other : written % memory.size ≠ offset % memory.size) :
    wrappedGet (wrappedSet memory written value) offset = wrappedGet memory offset := by
  have apart : written % memory.data.size ≠ offset % memory.data.size := other
  rw [wrappedGet_eq, wrappedGet_eq, data_wrappedSet, Array.size_setIfInBounds,
    Array.getElem?_setIfInBounds_ne apart]

namespace Cartridge

/-- What the machine does to a cartridge. -/
inductive Action where
  /-- A processor read. -/
  | read (address : UInt16)
  /-- A processor write. -/
  | write (address : UInt16) (value : UInt8)
  /-- A read by the picture chip. -/
  | readCharacter (address : UInt16)
  /-- A write by the picture chip. -/
  | writeCharacter (address : UInt16) (value : UInt8)
  /-- A line of the picture has been drawn. -/
  | countLine
  /-- A reset. -/
  | reset
  /-- The request for an interrupt is taken back. -/
  | acknowledge
deriving DecidableEq

/-- The cartridge after an action; reads leave it as it is. -/
def after (cartridge : Cartridge) : Action → Cartridge
  | .read _ => cartridge
  | .write address value => (cartridge.write address value).2
  | .readCharacter _ => cartridge
  | .writeCharacter address value => (cartridge.writeCharacter address value).2
  | .countLine => cartridge.countLine
  | .reset => cartridge.reset
  | .acknowledge => cartridge.acknowledge

/-- The cartridge after actions in order. -/
def run (cartridge : Cartridge) (actions : List Action) : Cartridge :=
  actions.foldl after cartridge

/-- Every action keeps a property. -/
def Kept (Holds : Cartridge → Prop) : Prop :=
  ∀ cartridge action, Holds cartridge → Holds (cartridge.after action)

/-- What every action keeps holds after any actions. -/
theorem Kept.run {Holds : Cartridge → Prop} (kept : Kept Holds) {cartridge : Cartridge}
    (holds : Holds cartridge) (actions : List Action) : Holds (cartridge.run actions) := by
  induction actions generalizing cartridge with
  | nil => exact holds
  | cons action actions ih => exact ih (kept cartridge action holds)

/-- What no use of a cartridge changes. -/
structure Make where
  /-- The make of the board. -/
  board : BoardMake
  /-- The size of program memory. -/
  programSize : Nat
  /-- The size of character memory. -/
  characterSize : Nat
  /-- The board number of the image. -/
  boardNumber : UInt8
  /-- The bank counts of the image. -/
  banks : BankCounts
  /-- The mirroring wired on the cartridge. -/
  wiring : Mirroring
  /-- The revision of the image. -/
  revision : ImageRevision
  /-- The file that the image was read from. -/
  path : Option String
deriving DecidableEq

/-- The make of a cartridge. -/
def make (cartridge : Cartridge) : Make where
  board := cartridge.board.make
  programSize := cartridge.program.size
  characterSize := cartridge.character.size
  boardNumber := cartridge.boardNumber
  banks := cartridge.banks
  wiring := cartridge.wiring
  revision := cartridge.revision
  path := cartridge.path

/-- The board after a write is the board that has seen the write. -/
theorem board_write (cartridge : Cartridge) (address : UInt16) (value : UInt8) :
    (cartridge.write address value).2.board = (cartridge.board.write address value).2 := by
  simp only [write]
  split <;> rfl

/-- The picture chip writes to no board. -/
theorem board_writeCharacter (cartridge : Cartridge) (address : UInt16) (value : UInt8) :
    (cartridge.writeCharacter address value).2.board = cartridge.board := by
  rw [writeCharacter]
  split <;> rfl

/-- A board of the same make makes a cartridge of the same make. -/
theorem make_mapBoard (cartridge : Cartridge) {change : Board → Board}
    (same : (change cartridge.board).make = cartridge.board.make) :
    (cartridge.mapBoard change).make = cartridge.make := by
  simp only [make, mapBoard, same]

/-- A processor write does not change the make of a cartridge. -/
theorem make_write (cartridge : Cartridge) (address : UInt16) (value : UInt8) :
    (cartridge.write address value).2.make = cartridge.make := by
  have same := cartridge.board.make_write address value
  rcases written : cartridge.board.write address value with ⟨target, board⟩
  rw [written] at same
  simp only [write, written]
  rcases target with _ | offset | _
  · simp only [make, same]
  · simp only [make, same, size_wrappedSet]
  · simp only [make, same]

/-- A write by the picture chip does not change the make of a cartridge. -/
theorem make_writeCharacter (cartridge : Cartridge) (address : UInt16) (value : UInt8) :
    (cartridge.writeCharacter address value).2.make = cartridge.make := by
  rw [writeCharacter]
  split
  · simp only [make, size_wrappedSet]
  · rfl

/-- No action changes the make of a cartridge. -/
theorem make_after (cartridge : Cartridge) (action : Action) :
    (cartridge.after action).make = cartridge.make := by
  cases action
  case read | readCharacter => rfl
  case write address value => exact cartridge.make_write address value
  case writeCharacter address value => exact cartridge.make_writeCharacter address value
  case countLine => exact cartridge.make_mapBoard (Board.make_countLine _)
  case reset => exact cartridge.make_mapBoard (Board.make_reset _)
  case acknowledge => exact cartridge.make_mapBoard (Board.make_acknowledge _)

/-- No actions change the make of a cartridge. -/
theorem make_run (cartridge : Cartridge) (actions : List Action) :
    (cartridge.run actions).make = cartridge.make := by
  have kept : Kept fun used => used.make = cartridge.make := by
    intro used action same
    rw [make_after, same]
  exact kept.run rfl actions

end Cartridge

end Nes
