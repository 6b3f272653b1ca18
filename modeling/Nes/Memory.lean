/-!
# Memories of a fixed size

A memory chip sees the low lines of the address bus, so an address reaches the cell whose index
is the address modulo the size of the memory. Reading and writing are total for that reason.
The laws say which cell a write changes.
-/
namespace Nes

/-- A size with at least one cell. It is data rather than a proposition, so that definitions name
the instance that they use. -/
class HasCells (size : Nat) : Type where
  /-- The size is positive. -/
  size_pos : 0 < size

instance {size : Nat} : HasCells size.succ := ⟨Nat.succ_pos size⟩

/-- Literals of places among eight name this fact, and so do not each prove it anew. -/
instance (priority := 2000) neZero_eight : @NeZero Nat Zero.ofOfNat0 8 := ⟨Nat.succ_ne_zero 7⟩

/-- A memory of `size` bytes. -/
structure Memory (size : Nat) where
  /-- The cells in address order. -/
  cells : Vector UInt8 size
deriving DecidableEq

namespace Memory

variable {size : Nat}

/-- A memory that holds zeros. -/
def zeros (size : Nat) : Memory size := ⟨Vector.replicate size 0⟩

instance : Inhabited (Memory size) := ⟨zeros size⟩

/-- The byte that `address` reaches. -/
@[inline] def read [HasCells size] (memory : Memory size) (address : Nat) : UInt8 :=
  have inside : address % size < size := Nat.mod_lt _ HasCells.size_pos
  memory.cells[address % size]

/-- The memory after a store at `address`. -/
@[inline] def write [HasCells size] (memory : Memory size) (address : Nat) (value : UInt8) :
    Memory size :=
  ⟨memory.cells.set (address % size) value (Nat.mod_lt _ HasCells.size_pos)⟩

/-- The bytes in address order. -/
def toList (memory : Memory size) : List UInt8 := memory.cells.toList

/-- The memory that holds exactly the given bytes. -/
def ofList (bytes : List UInt8) (length_eq : bytes.length = size) : Memory size :=
  ⟨bytes.toArray, by simp [length_eq]⟩

/-- The memory that holds the given bytes, cut or filled up with zeros to the size. -/
def ofListPadded (bytes : List UInt8) : Memory size :=
  ofList (bytes.take size ++ List.replicate (size - bytes.length) 0) (by
    rw [List.length_append, List.length_take, List.length_replicate]
    omega)

/-- The memory whose cell `index` holds `cell index`. -/
def ofFn (cell : Fin size → UInt8) : Memory size := ⟨Vector.ofFn cell⟩

/-- A read returns the byte stored last in the same cell. -/
theorem read_write_of_same_cell [HasCells size] (memory : Memory size) {written address : Nat}
    (value : UInt8) (same : written % size = address % size) :
    (memory.write written value).read address = value := by
  simp [read, write, same]

/-- A store leaves every other cell as it was. -/
theorem read_write_of_other_cell [HasCells size] (memory : Memory size) {written address : Nat}
    (value : UInt8) (other : written % size ≠ address % size) :
    (memory.write written value).read address = memory.read address := by
  simp [read, write, other]

/-- The index of a cell is one of the addresses that reach it. -/
theorem read_mod [HasCells size] (memory : Memory size) (address : Nat) :
    memory.read (address % size) = memory.read address := by
  simp only [read, Nat.mod_mod]

/-- A write sees its address modulo the size only. -/
theorem write_mod [HasCells size] (memory : Memory size) (address : Nat) (value : UInt8) :
    memory.write (address % size) value = memory.write address value := by
  simp only [write, Nat.mod_mod]

/-- A memory of zeros answers every read with zero. -/
theorem read_zeros [HasCells size] (address : Nat) : (zeros size).read address = 0 := by
  simp [read, zeros]

/-- A memory has as many bytes as its size says. -/
theorem length_toList (memory : Memory size) : memory.toList.length = size := by
  simp [toList]

/-- The bytes of a memory make the same memory again. -/
theorem ofList_toList (memory : Memory size) :
    ofList memory.toList memory.length_toList = memory := by
  cases memory
  simp [ofList, toList, Vector.toList]

/-- A memory made of bytes gives these bytes. -/
theorem toList_ofList (bytes : List UInt8) (length_eq : bytes.length = size) :
    (ofList bytes length_eq).toList = bytes := by
  simp [ofList, toList, Vector.toList]

/-- A memory made of cells gives them in address order. -/
theorem toList_ofFn (cell : Fin size → UInt8) : (ofFn cell).toList = List.ofFn cell := by
  rw [ofFn, toList, Vector.toList_ofFn]

/-- A memory made from a list of bytes holds them in order. -/
theorem read_ofList [HasCells size] (bytes : List UInt8) (length_eq : bytes.length = size)
    (address : Nat) (inside : address < size) :
    (ofList bytes length_eq).read address = bytes[address] := by
  have same : address % size = address := Nat.mod_eq_of_lt inside
  simp [read, ofList, same]

/-- A memory made from a rule for its cells holds what the rule says. -/
theorem read_ofFn [HasCells size] (cell : Fin size → UInt8) {address : Nat}
    (inside : address < size) : (ofFn cell).read address = cell ⟨address, inside⟩ := by
  have same : address % size = address := Nat.mod_eq_of_lt inside
  simp [read, ofFn, same]

/-- Bytes of the right number are neither cut nor filled up. -/
theorem ofListPadded_toList (memory : Memory size) :
    (ofListPadded memory.toList : Memory size) = memory := by
  have whole : memory.toList.take size ++ List.replicate (size - memory.toList.length) 0 =
      memory.toList := by
    simp [List.take_of_length_le, memory.length_toList]
  unfold ofListPadded
  simp only [whole]
  exact memory.ofList_toList

end Memory

/-- Two memories of one size, of which an access picks one: the two halves of video memory. -/
structure MemoryPair (size : Nat) where
  /-- The memory picked by `false`. -/
  first : Memory size
  /-- The memory picked by `true`. -/
  second : Memory size
deriving DecidableEq

namespace MemoryPair

variable {size : Nat}

/-- Two memories that hold zeros. -/
def zeros (size : Nat) : MemoryPair size := ⟨Memory.zeros size, Memory.zeros size⟩

/-- The byte that `address` reaches in the picked memory. -/
@[inline] def read [HasCells size] (pair : MemoryPair size) (second : Bool) (address : Nat) :
    UInt8 :=
  if second then pair.second.read address else pair.first.read address

/-- The pair after a store in the picked memory. -/
@[inline] def write [HasCells size] (pair : MemoryPair size) (second : Bool) (address : Nat)
    (value : UInt8) : MemoryPair size :=
  match pair, second with
  | ⟨first, other⟩, true => ⟨first, other.write address value⟩
  | ⟨one, second⟩, false => ⟨one.write address value, second⟩

section Access

variable [HasCells size] (pair : MemoryPair size) (second : Bool) (address : Nat)

/-- A read of a pair sees its address modulo the size of a half only. -/
theorem read_mod : pair.read second (address % size) = pair.read second address := by
  cases second
  · exact pair.first.read_mod address
  · exact pair.second.read_mod address

/-- A write to a pair sees its address modulo the size of a half only. -/
theorem write_mod (value : UInt8) :
    pair.write second (address % size) value = pair.write second address value := by
  cases second
  · exact congrArg (MemoryPair.mk · pair.second) (pair.first.write_mod address value)
  · exact congrArg (MemoryPair.mk pair.first) (pair.second.write_mod address value)

variable {address} {written : Nat} (value : UInt8)

/-- A read returns the byte stored last in the same cell of the same memory. -/
theorem read_write_of_same_cell (same : written % size = address % size) :
    (pair.write second written value).read second address = value := by
  cases second
  · exact pair.first.read_write_of_same_cell value same
  · exact pair.second.read_write_of_same_cell value same

variable {second} {other : Bool}

/-- A store leaves every other cell of its memory, and the whole other memory, as they were. -/
theorem read_write_of_other_cell (apart : second = other → written % size ≠ address % size) :
    (pair.write second written value).read other address = pair.read other address := by
  cases second <;> cases other
  · exact pair.first.read_write_of_other_cell value (apart rfl)
  · rfl
  · rfl
  · exact pair.second.read_write_of_other_cell value (apart rfl)

end Access

end MemoryPair

end Nes
