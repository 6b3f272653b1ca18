import Nes.Memory
import Nes.Word

/-!
# Address spaces

The processor sees the rest of the machine as 65536 addresses that answer reads and take writes.
A read may change what lies behind the address, so it returns the space as well. Two spaces are
given here: plain memory behind every address, and any space with a record of its accesses.
-/
namespace Nes.Cpu

/-- What the processor reads from and writes to. -/
class AddressSpace (β : Type) where
  /-- The byte at an address, and the space after the read. -/
  read : β → UInt16 → UInt8 × β
  /-- The space after a write. -/
  write : β → UInt16 → UInt8 → β

/-- Read the word stored at an address and its successor, low byte first. -/
@[specialize] def readWord {β : Type} [AddressSpace β] (space : β) (address : UInt16) :
    UInt16 × β :=
  let (low, space) := AddressSpace.read space address
  let (high, space) := AddressSpace.read space (address + 1)
  (wordOf low high, space)

/-- Plain memory behind every address. -/
structure FlatMemory where
  /-- The 64 KiB of memory. -/
  cells : Memory 0x10000

instance : AddressSpace FlatMemory where
  read space address := (space.cells.read address.toNat, space)
  write space address value := ⟨space.cells.write address.toNat value⟩

/-- One access to an address space. -/
inductive Access where
  /-- A byte was read. -/
  | read (address : UInt16)
  /-- A byte was written. -/
  | write (address : UInt16) (value : UInt8)
deriving DecidableEq

/-- An address space with a record of its accesses. -/
structure Traced (β : Type) where
  /-- The space that answers. -/
  space : β
  /-- The accesses so far, the latest first. -/
  reversedLog : List Access

namespace Traced

variable {β : Type}

/-- A space without accesses so far. -/
def start (space : β) : Traced β := ⟨space, []⟩

/-- The accesses so far in the order in which they happened. -/
def log (traced : Traced β) : List Access := traced.reversedLog.reverse

instance [AddressSpace β] : AddressSpace (Traced β) where
  read traced address :=
    let (value, space) := AddressSpace.read traced.space address
    (value, ⟨space, .read address :: traced.reversedLog⟩)
  write traced address value :=
    ⟨AddressSpace.write traced.space address value, .write address value :: traced.reversedLog⟩

end Traced

end Nes.Cpu
