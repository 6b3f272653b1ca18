import Mathlib.Algebra.Group.Nat.Defs
import Nes.Cartridge.Basic

/-!
# Accesses by index

A memory comes round at its end, so an access to it can not miss. What works out an index of a cell
has to see to it that there is such a cell. The accesses here take an index as it is, and have no
result where the array ends before it.

A function `indexedF` is `f` read with these accesses, at the indexes that its own masks, shifts and
remainders give. That it gives `some` of what `f` gives says that every index of `f` is inside of
its array.
-/
namespace Nes

section Cells

variable {α : Type} {size : Nat}

/-- Put a value into the cell of an index, if there is one. -/
def put? (cells : Vector α size) (index : Nat) (value : α) : Option (Vector α size) :=
  if inside : index < size then some (cells.set index value inside) else none

/-- An index inside of an array has a cell to put a value into. -/
theorem put?_eq (cells : Vector α size) {index : Nat} (inside : index < size) (value : α) :
    put? cells index value = some (cells.set index value inside) := dif_pos inside

end Cells

namespace Memory

variable {size : Nat}

/-- The byte in the cell of an index, if there is one. -/
def get? (memory : Memory size) (index : Nat) : Option UInt8 := memory.cells[index]?

/-- Put a byte into the cell of an index, if there is one. -/
def set? (memory : Memory size) (index : Nat) (value : UInt8) : Option (Memory size) := do
  let cells ← put? memory.cells index value
  return ⟨cells⟩

variable [HasCells size] (memory : Memory size)

/-- The remainder of an address by the size is the index of a cell, the one that it reaches. -/
theorem get?_mod (address : Nat) : memory.get? (address % size) = some (memory.read address) :=
  Vector.getElem?_eq_getElem (Nat.mod_lt address HasCells.size_pos)

/-- A byte put at the rest of an address goes where a write of the address goes. -/
theorem set?_mod (address : Nat) (value : UInt8) :
    memory.set? (address % size) value = some (memory.write address value) := by
  rw [set?, put?_eq _ (Nat.mod_lt address HasCells.size_pos)]
  rfl

/-- An index below the size is its own remainder. -/
theorem get?_eq {index : Nat} (inside : index < size) :
    memory.get? index = some (memory.read index) := by
  rw [← memory.get?_mod index, Nat.mod_eq_of_lt inside]

/-- An index inside of a memory is one that a write reaches. -/
theorem set?_eq {index : Nat} (inside : index < size) (value : UInt8) :
    memory.set? index value = some (memory.write index value) := by
  rw [← memory.set?_mod index value, Nat.mod_eq_of_lt inside]

end Memory

namespace MemoryPair

variable {size : Nat}

/-- The byte in a cell of one of the two memories, if there are such a memory and such a cell. -/
def get? (pair : MemoryPair size) (table index : Nat) : Option UInt8 := do
  let memory ← [pair.first, pair.second][table]?
  memory.get? index

/-- Put a byte into a cell of one of the two memories, if there are such a memory and such a
cell. -/
def set? (pair : MemoryPair size) (table index : Nat) (value : UInt8) :
    Option (MemoryPair size) :=
  match table with
  | 0 => do return { pair with first := ← pair.first.set? index value }
  | 1 => do return { pair with second := ← pair.second.set? index value }
  | _ => none

variable [HasCells size] (pair : MemoryPair size) (second : Bool) (address : Nat)

/-- An address of a pair has a cell in each half to read. -/
theorem get?_mod :
    pair.get? second.toNat (address % size) = some (pair.read second address) := by
  cases second <;> exact Memory.get?_mod _ address

/-- An address of a pair has a cell in each half to put a byte into. -/
theorem set?_mod (value : UInt8) :
    pair.set? second.toNat (address % size) value = some (pair.write second address value) := by
  cases second
  · change (pair.first.set? _ _).bind _ = _
    rw [Memory.set?_mod]
    rfl
  · change (pair.second.set? _ _).bind _ = _
    rw [Memory.set?_mod]
    rfl

end MemoryPair

/-- The byte of a memory that an offset comes round to; an empty memory reads as zero. -/
def indexedGet (memory : ByteArray) (offset : Nat) : Option UInt8 :=
  if memory.size = 0 then some 0 else memory.data[offset % memory.size]?

/-- The memory after a store at the byte that an offset comes round to. -/
def indexedSet (memory : ByteArray) (offset : Nat) (value : UInt8) : Option ByteArray :=
  if memory.size = 0 then some memory
  else if inside : offset % memory.size < memory.size then
    some (memory.set (offset % memory.size) value inside)
  else none

/-- An offset comes round to a byte of the memory, whatever the two are. -/
theorem indexedGet_eq (memory : ByteArray) (offset : Nat) :
    indexedGet memory offset = some (wrappedGet memory offset) := by
  rw [indexedGet, wrappedGet]
  by_cases empty : memory.size = 0
  · rw [if_pos empty, dif_neg (by omega)]
  · have nonempty : 0 < memory.size := by omega
    rw [if_neg empty, dif_pos nonempty]
    exact Array.getElem?_eq_getElem (Nat.mod_lt offset nonempty)

/-- An offset that has come round is inside of a memory, unless that is empty and stays so. -/
theorem indexedSet_eq (memory : ByteArray) (offset : Nat) (value : UInt8) :
    indexedSet memory offset value = some (wrappedSet memory offset value) := by
  rw [indexedSet, wrappedSet]
  by_cases empty : memory.size = 0
  · rw [if_pos empty, dif_neg (by omega)]
  · have nonempty : 0 < memory.size := by omega
    rw [if_neg empty, dif_pos nonempty, dif_pos (Nat.mod_lt offset nonempty)]

/-- The low bits of an address count its place in a memory of a power of two. -/
theorem toNat_and_low (address : UInt16) {mask : UInt16} {bits : Nat}
    (ones : mask.toNat = 2 ^ bits - 1) : (address &&& mask).toNat = address.toNat % 2 ^ bits := by
  rw [UInt16.toNat_and, ones, Nat.and_two_pow_sub_one_eq_mod]

/-- The bits from a place on count the windows of a power of two before an address. -/
theorem toNat_shiftRight_window (address : UInt16) {bits : UInt16} (small : bits.toNat < 16) :
    (address >>> bits).toNat = address.toNat / 2 ^ bits.toNat := by
  rw [UInt16.toNat_shiftRight, Nat.mod_eq_of_lt small, Nat.shiftRight_eq_div_pow]

/-- A loop over indexes whose every turn goes from one state of a course to the next one. -/
theorem foldlM_range_eq {σ : Type} {turn : σ → Nat → Option σ} {course : Nat → σ} {count : Nat}
    (turns : ∀ index < count, turn (course index) index = some (course (index + 1))) :
    (List.range count).foldlM turn (course 0) = some (course count) := by
  induction count with
  | zero => rfl
  | succ count ih =>
    have before := ih fun index inside => turns index (by omega)
    rw [List.range_succ, List.foldlM_append, before, Option.bind_eq_bind, Option.bind_some,
      List.foldlM_cons, turns count (by omega), Option.bind_eq_bind, Option.bind_some]
    rfl

/-- Cells of which those before a bound have been exchanged for others. -/
def spliced {α : Type} {size : Nat} (bound : Nat) (others cells : Vector α size) :
    Vector α size :=
  Vector.ofFn fun index => if index < bound then others.get index else cells.get index

section Splicing

variable {α : Type} {size : Nat} (others cells : Vector α size)

/-- Nothing has been exchanged before the first cell. -/
theorem spliced_zero : spliced 0 others cells = cells := by
  apply Vector.ext
  intro place _
  rw [spliced, Vector.getElem_ofFn]
  exact if_neg (Nat.not_lt_zero place)

variable {index : Nat} (inside : index < size)

/-- The cell at the bound is still the old one. -/
theorem getElem?_spliced : (spliced index others cells)[index]? = some cells[index] := by
  rw [Vector.getElem?_eq_getElem inside, spliced, Vector.getElem_ofFn]
  exact congrArg some (if_neg (Nat.lt_irrefl index))

/-- Exchanging the cell at the bound moves the bound on. -/
theorem put?_spliced :
    put? (spliced index others cells) index others[index]
      = some (spliced (index + 1) others cells) := by
  rw [put?_eq _ inside]
  congr 1
  apply Vector.ext
  intro place _
  simp only [spliced, Vector.getElem_set, Vector.getElem_ofFn]
  by_cases here : index = place
  · subst here
    rw [if_pos rfl, if_pos (Nat.lt_succ_self index)]
    rfl
  · rw [if_neg here]
    exact ite_congr (propext (by omega)) (fun _ => rfl) fun _ => rfl

/-- A cell that is no other than before need not be exchanged. -/
theorem spliced_of_eq (same : others[index] = cells[index]) :
    spliced (index + 1) others cells = spliced index others cells := by
  apply Vector.ext
  intro place _
  simp only [spliced, Vector.getElem_ofFn]
  by_cases here : index = place
  · subst here
    rw [if_pos (Nat.lt_succ_self index), if_neg (Nat.lt_irrefl index)]
    exact same
  · exact ite_congr (propext (by omega)) (fun _ => rfl) fun _ => rfl

end Splicing

/-- Elements each of which has a value. -/
theorem mapM_eq {α β : Type} {result : α → Option β} {value : α → β} {elements : List α}
    (found : ∀ element ∈ elements, result element = some (value element)) :
    elements.mapM result = some (elements.map value) := by
  induction elements with
  | nil => rfl
  | cons element rest ih =>
    have later := ih fun other among => found other (List.mem_cons_of_mem _ among)
    rw [List.mapM_cons, found element List.mem_cons_self, Option.bind_eq_bind, Option.bind_some,
      later]
    rfl

/-- A search over elements each of which can be tested. -/
theorem findM?_eq {α : Type} {test : α → Option Bool} {passes : α → Bool} {elements : List α}
    (tested : ∀ element ∈ elements, test element = some (passes element)) :
    elements.findM? test = some (elements.find? passes) := by
  induction elements with
  | nil => rfl
  | cons element rest ih =>
    have later := ih fun other among => tested other (List.mem_cons_of_mem _ among)
    rw [List.findM?, tested element List.mem_cons_self, Option.bind_eq_bind, Option.bind_some,
      later, List.find?_cons]
    cases passes element <;> rfl

end Nes
