import Mathlib.Data.List.Induction
import Nes.Proofs.Bus.Access
import Nes.Proofs.Cartridge.BoardMemory

/-!
# Memory keeps what was written last

Work memory and the memory on a board answer a read with the value of the latest write to the same
cell, whatever else has gone over the bus in between (`Bus.read_carry`). The bus and the board are
followed apart: of all traffic only a write below `2000` changes work memory (`Bus.ram_pass`),
and a board sees the traffic of the bus but for what the picture chip does with the cartridge,
which leaves the board as it is (`Bus.board?_pass`).
-/
namespace Nes

/-- What goes over the bus, and the two signals that reach a cartridge beside it. -/
inductive Traffic where
  /-- A processor read. -/
  | read (address : UInt16)
  /-- A processor write. -/
  | write (address : UInt16) (value : UInt8)
  /-- The cartridge is reset. -/
  | resetCartridge
  /-- The cartridge is told about a line of the picture. -/
  | countLine
deriving DecidableEq

namespace Traffic

/-- The value of a write to a chosen address. -/
def writes? (chosen : UInt16 → Bool) : Traffic → Option UInt8
  | write address value => if chosen address then some value else none
  | _ => none

/-- The value of the latest write to a chosen address. -/
def latest? (chosen : UInt16 → Bool) (traffic : List Traffic) : Option UInt8 :=
  traffic.reverse.findSome? (writes? chosen)

/-- A board after one piece of traffic that it sees. -/
def onBoard (traffic : Traffic) (board : Board) : Board :=
  match traffic with
  | read _ => board
  | write address value => (board.write address value).2
  | resetCartridge => board.reset
  | countLine => board.countLine

end Traffic

/-- The addresses of work memory that reach the same cell as an address. -/
def mirrors (address written : UInt16) : Bool :=
  written < 0x2000 && written.toNat % 0x800 == address.toNat % 0x800

namespace Bus

/-- The bus after one piece of traffic. -/
def pass (bus : Bus) : Traffic → Bus
  | .read address => (bus.read address).2
  | .write address value => bus.write address value
  | .resetCartridge => { bus with slot := bus.slot.map Cartridge.reset }
  | .countLine => { bus with slot := bus.slot.map Cartridge.countLine }

/-- The bus after some traffic, in order. -/
def carry (bus : Bus) (traffic : List Traffic) : Bus := traffic.foldl pass bus

/-- The board of the cartridge in the slot. -/
def board? (bus : Bus) : Option Board := bus.slot.map (·.board)

end Bus

/-- The latest write among the chosen ones is the last access if that is one of them, and the one
before it otherwise. -/
theorem Traffic.latest?_concat (chosen : UInt16 → Bool) (traffic : List Traffic)
    (last : Traffic) :
    latest? chosen (traffic ++ [last]) = (last.writes? chosen).or (latest? chosen traffic) := by
  rw [latest?, List.reverse_append, List.reverse_singleton, List.singleton_append,
    List.findSome?_cons]
  cases last.writes? chosen <;> rfl

/-- Of the board's memory a write changes the cell of its address, and other traffic none. -/
theorem Traffic.ram_onBoard {board : Board} (memory : board.HasRam) (traffic : Traffic)
    {address : UInt16} (here : inBoardMemory address = true) :
    (traffic.onBoard board).ram.read address.toNat
      = (traffic.writes? (· == address)).getD (board.ram.read address.toNat) := by
  cases traffic
  case read => rfl
  case resetCartridge => exact congrArg (·.read address.toNat) board.ram_reset
  case countLine => exact congrArg (·.read address.toNat) board.ram_countLine
  case write written value =>
    change (board.write written value).2.ram.read address.toNat = _
    rw [Board.ram_write memory, writes?]
    by_cases same : written = address
    · subst same
      rw [if_pos here, if_pos (beq_self_eq_true written), Memory.read_write_of_same_cell _ _ rfl]
      rfl
    · rw [if_neg (fun equal => same (eq_of_beq equal))]
      split
      case isTrue there =>
        exact Memory.read_write_of_other_cell _ _ fun cell =>
          same ((boardMemory_cell_iff there here).1 cell)
      case isFalse => rfl

/-- Traffic keeps the number of a board. -/
theorem Traffic.hasRam_onBoard {board : Board} (memory : board.HasRam) (traffic : Traffic) :
    (traffic.onBoard board).HasRam := by
  have same : (traffic.onBoard board).make = board.make := by
    cases traffic
    case read => rfl
    case write address value => exact board.make_write address value
    case resetCartridge => exact board.make_reset
    case countLine => exact board.make_countLine
  have number : (traffic.onBoard board).number = board.number := congrArg BoardMake.number same
  rw [Board.HasRam, number]
  exact memory

namespace Bus

/-- What becomes of the bus behind the cartridge leaves the board in the slot. -/
theorem board?_writeEffect {bus after : Bus} {value : UInt8}
    (effect : WriteEffect bus value after) : after.board? = bus.board? := by
  cases effect
  case register address =>
    have kept (slot : Option Cartridge) (place : UInt16) :
        (CartridgeSide.writeCharacter slot place value).2.map (·.board) = slot.map (·.board) := by
      cases slot
      case none => rfl
      case some cartridge => exact congrArg some (cartridge.board_writeCharacter place value)
    change (bus.ppu.writeRegister bus.slot address value).2.map (·.board) = bus.slot.map (·.board)
    rcases bus.ppu.slot_writeRegister bus.slot address value with same | written
    · rw [same]
    · rw [written, kept]
  all_goals rfl

/-- A read leaves work memory and the slot. -/
theorem memories_read (bus : Bus) (address : UInt16) :
    (bus.read address).2.ram = bus.ram ∧ (bus.read address).2.slot = bus.slot := by
  have effect := bus.readEffect_read address
  generalize (bus.read address).2 = after at effect ⊢
  cases effect <;> exact ⟨rfl, rfl⟩

/-- The board in the slot sees the traffic of the bus, and nothing else. -/
theorem board?_pass (bus : Bus) (traffic : Traffic) :
    (bus.pass traffic).board? = bus.board?.map traffic.onBoard := by
  cases traffic
  case read address =>
    change (bus.read address).2.slot.map (·.board) = bus.board?.map id
    rw [(bus.memories_read address).2, Option.map_id]
    rfl
  case write address value =>
    change (bus.write address value).board? = _
    rw [board?_writeEffect (bus.writeEffect_write address value)]
    simp only [board?, offer, Option.map_map]
    congr 1
    funext cartridge
    exact cartridge.board_write address value
  case resetCartridge =>
    change (bus.slot.map Cartridge.reset).map (·.board) = (bus.slot.map (·.board)).map Board.reset
    rw [Option.map_map, Option.map_map]
    rfl
  case countLine =>
    change (bus.slot.map Cartridge.countLine).map (·.board)
      = (bus.slot.map (·.board)).map Board.countLine
    rw [Option.map_map, Option.map_map]
    rfl

/-- Only a write below `2000` changes work memory. -/
theorem ram_write_of_high (bus : Bus) {address : UInt16} (high : ¬address < 0x2000)
    (value : UInt8) : (bus.write address value).ram = bus.ram := by
  have passed (bus : Bus) : (bus.writeUnclaimed address value).ram = bus.ram := by
    simp only [writeUnclaimed, if_neg high]
    split
    · rfl
    split
    · rfl
    split
    · rfl
    split <;> rfl
  rw [write]
  split
  · exact passed bus
  · dsimp only
    split
    · rfl
    · exact passed _

/-- Of work memory a write changes the cell of its address, and other traffic none. -/
theorem ram_pass (bus : Bus) (traffic : Traffic) (address : UInt16) :
    (bus.pass traffic).ram.read address.toNat
      = (traffic.writes? (mirrors address)).getD (bus.ram.read address.toNat) := by
  cases traffic
  case read other =>
    exact congrArg (·.read address.toNat) (bus.memories_read other).1
  case resetCartridge | countLine => rfl
  case write written value =>
    change (bus.write written value).ram.read address.toNat = _
    rw [Traffic.writes?, mirrors]
    by_cases low : written < 0x2000
    · rw [bus.write_ram low, decide_eq_true low, Bool.true_and]
      by_cases cell : written.toNat % 0x800 = address.toNat % 0x800
      · rw [if_pos (beq_iff_eq.2 cell)]
        exact Memory.read_write_of_same_cell _ _ cell
      · rw [if_neg (fun equal => cell (eq_of_beq equal))]
        exact Memory.read_write_of_other_cell _ _ cell
    · rw [bus.ram_write_of_high low, decide_eq_false low]
      rfl

/-- A cell that each piece of traffic sets to the value of a chosen write, and leaves otherwise,
holds the value of the latest chosen write after any traffic. -/
theorem carry_of_pass (Holds : Bus → Prop) (cell : Bus → UInt8) {chosen : UInt16 → Bool}
    (pass : ∀ bus traffic, Holds bus → Holds (bus.pass traffic) ∧
      cell (bus.pass traffic) = (traffic.writes? chosen).getD (cell bus))
    {bus : Bus} (holds : Holds bus) (traffic : List Traffic) :
    Holds (bus.carry traffic) ∧
      cell (bus.carry traffic) = (Traffic.latest? chosen traffic).getD (cell bus) := by
  induction traffic using List.reverseRecOn with
  | nil => exact ⟨holds, rfl⟩
  | append_singleton traffic last ih =>
    obtain ⟨holds, value⟩ := ih
    obtain ⟨still, passed⟩ := pass _ last holds
    rw [carry, List.foldl_append]
    refine ⟨still, passed.trans ?_⟩
    rw [value, Traffic.latest?_concat]
    cases last.writes? chosen <;> rfl

/-- A read of board memory returns the byte there. -/
theorem read_of_boardMemory {bus : Bus} {board : Board} (found : bus.board? = some board)
    (memory : board.HasRam) {address : UInt16} (here : inBoardMemory address = true) :
    (bus.read address).1 = board.ram.read address.toNat := by
  obtain ⟨cartridge, inside, rfl⟩ := Option.map_eq_some_iff.1 found
  have answered : bus.slot.bind (·.read address)
      = some (cartridge.board.ram.read address.toNat) := by
    rw [inside]
    change cartridge.read address = _
    rw [Cartridge.read, Board.readTarget_of_boardMemory memory here]
  rw [read_of_claimed bus answered]

/-- A read of work memory returns the byte there. -/
theorem read_of_ram (bus : Bus) {address : UInt16} (low : address < 0x2000) :
    (bus.read address).1 = bus.ram.read address.toNat := by
  have below : address.toNat < 0x2000 := UInt16.lt_iff_toNat_lt.1 low
  have unclaimed : address < 0x6000 := by
    apply UInt16.lt_iff_toNat_lt.2
    change address.toNat < 0x6000
    omega
  rw [bus.read_of_low unclaimed, readUnclaimed, if_pos low]

/-- After any traffic a read of work memory returns the value of the latest write to an address
that reaches the same cell, and on a board with memory a read there returns the value of the latest
write to the same address. Where there was no such write, the byte is the one from before; on a
board fresh from an image that is zero. -/
theorem read_carry (bus : Bus) (traffic : List Traffic) (address : UInt16) :
    (address < 0x2000 →
      ((bus.carry traffic).read address).1
        = (Traffic.latest? (mirrors address) traffic).getD (bus.read address).1) ∧
    (∀ cartridge, bus.slot = some cartridge →
      cartridge.board.number = 1 ∨ cartridge.board.number = 4 →
      0x6000 ≤ address → address < 0x8000 →
      ((bus.carry traffic).read address).1
        = (Traffic.latest? (· == address) traffic).getD (bus.read address).1 ∧
      (Cartridge.Accepted cartridge →
        ((bus.carry traffic).read address).1
          = (Traffic.latest? (· == address) traffic).getD 0)) := by
  constructor
  case left =>
    intro low
    rw [read_of_ram _ low, read_of_ram _ low]
    exact (carry_of_pass (fun _ => True) (fun bus => bus.ram.read address.toNat)
      (fun bus traffic _ => ⟨trivial, bus.ram_pass traffic address⟩) trivial traffic).2
  case right =>
    intro cartridge inside memory above below
    have here : inBoardMemory address = true := by
      rw [inBoardMemory, decide_eq_true above, decide_eq_true below]
      rfl
    have found : bus.board? = some cartridge.board := by
      rw [board?, inside]
      rfl
    have latest : ((bus.carry traffic).read address).1
        = (Traffic.latest? (· == address) traffic).getD (bus.read address).1 := by
      refine (carry_of_pass (fun bus => ∃ board, bus.board? = some board ∧ board.HasRam)
        (fun bus => (bus.read address).1) ?_ ⟨_, found, memory⟩ traffic).2
      rintro bus traffic ⟨board, found, memory⟩
      have after : (bus.pass traffic).board? = some (traffic.onBoard board) := by
        rw [board?_pass, found]
        rfl
      have still := traffic.hasRam_onBoard memory
      refine ⟨⟨_, after, still⟩, ?_⟩
      rw [read_of_boardMemory after still here, read_of_boardMemory found memory here]
      exact traffic.ram_onBoard memory here
    refine ⟨latest, fun accepted => ?_⟩
    rw [latest, read_of_boardMemory found memory here, Cartridge.ram_of_accepted accepted,
      Memory.read_zeros]

/-- Bytes in work memory and on board 4 outlast bank switching, a transfer, a reset and a line. -/
theorem read_carry_bareMmc3 :
    let bus := powerOn.insert Cartridge.bareMmc3
    let traffic := [.write 0x0812 9, .write 0x6000 7, .write 0x8000 0x46, .write 0x8001 3,
      .write 0x2006 0x20, .write 0x4014 0x06, .read 0x2002, .resetCartridge, .countLine]
    (0x0012 : UInt16) < 0x2000 ∧ Cartridge.bareMmc3.board.number = 4 ∧
      ((bus.carry traffic).read 0x0012).1 = 9 ∧ ((bus.carry traffic).read 0x6000).1 = 7 := by
  intro bus traffic
  have work : Traffic.latest? (mirrors 0x0012) traffic = some 9 := by decide
  have board : Traffic.latest? (· == 0x6000) traffic = some 7 := by decide
  refine ⟨by decide, rfl, ?_, ?_⟩
  · rw [(read_carry bus traffic 0x0012).1 (by decide), work]
    rfl
  · rw [((read_carry bus traffic 0x6000).2 _ rfl (.inr rfl) (by decide) (by decide)).2
      Cartridge.accepted_bareMmc3, board]
    rfl

end Bus

end Nes
