import Nes.SaveState.Layout

/-!
# The sprite memory transfer

A write to `4014` starts a transfer of one page into sprite memory (OAM). The engine decides only
what a cycle of the transfer does; the bus carries the access out, so that a read by the engine
is a read like any other. The engine first waits for an odd cycle, then reads in even cycles and
stores in odd ones, until its eight-bit cursor comes round to zero.
-/
namespace Nes

/-- The transfer engine. -/
structure OamTransfer where
  /-- The source page. -/
  page : UInt8
  /-- The offset in the page and in sprite memory. -/
  cursor : UInt8
  /-- The byte read last. -/
  latch : UInt8
  /-- The engine still waits for its first odd cycle. -/
  idle : Bool
  /-- A transfer is going on, and the processor stands still. -/
  active : Bool
deriving DecidableEq

namespace OamTransfer

/-- What a cycle of the transfer asks of the bus. -/
inductive Request where
  /-- Nothing. -/
  | wait
  /-- Read a byte and hand it back. -/
  | read (address : UInt16)
  /-- Store a byte in sprite memory. -/
  | store (index value : UInt8)
deriving DecidableEq

/-- No transfer. -/
def powerOn : OamTransfer := ⟨0, 0, 0, true, false⟩

/-- Start a transfer of a page. A transfer under way goes on from the new page's start without
waiting again. -/
def start (transfer : OamTransfer) (page : UInt8) : OamTransfer :=
  { transfer with page, cursor := 0, active := true }

/-- One cycle of the transfer. -/
def advance (transfer : OamTransfer) (odd : Bool) : Request × OamTransfer :=
  if transfer.idle then (.wait, { transfer with idle := !odd })
  else if odd then
    let cursor := transfer.cursor + 1
    let done := cursor == 0
    (.store transfer.cursor transfer.latch,
      { transfer with cursor, idle := done, active := transfer.active && !done })
  else (.read (wordOf transfer.cursor transfer.page), transfer)

/-- Take the byte that was asked for. -/
def hand (transfer : OamTransfer) (value : UInt8) : OamTransfer := { transfer with latch := value }

open SaveState in
/-- The stored form of the engine. -/
def layout : Layout OamTransfer := [
  ⟨.byte, (·.page), fun value transfer => { transfer with page := value }⟩,
  ⟨.byte, (·.cursor), fun value transfer => { transfer with cursor := value }⟩,
  ⟨.byte, (·.latch), fun value transfer => { transfer with latch := value }⟩,
  ⟨.flag, (·.idle), fun value transfer => { transfer with idle := value }⟩,
  ⟨.flag, (·.active), fun value transfer => { transfer with active := value }⟩]

end OamTransfer

end Nes
