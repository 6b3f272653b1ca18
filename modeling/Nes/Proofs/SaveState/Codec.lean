import Nes.SaveState.Codec

/-!
# Laws of stored values

Reading the bytes of a value, with any bytes behind them, returns the value and those bytes
(`Codec.LawfulAt`). Most codecs keep this law for every value. A counted run of bytes keeps it
only where its length fits the 32-bit word in front of it, so the law is one of a codec at a value.
-/
namespace Nes.SaveState

/-- A successful read hands its value and what is left to the next one. -/
@[simp] theorem Outcome.andThen_ok {α β : Type} (value : α) (rest : List UInt8)
    (next : α → Reader β) : Outcome.andThen (.ok value, rest) next = next value rest := rfl

/-- A failed read is the outcome of the whole. -/
@[simp] theorem Outcome.andThen_error {α β : Type} (fault : Fault) (rest : List UInt8)
    (next : α → Reader β) : Outcome.andThen (.error fault, rest) next = (.error fault, rest) := rfl

/-- The value of a successful read is changed. -/
@[simp] theorem Outcome.map_ok {α β : Type} (change : α → β) (value : α) (rest : List UInt8) :
    Outcome.map change (.ok value, rest) = (.ok (change value), rest) := rfl

/-- A failed read has no value to change. -/
@[simp] theorem Outcome.map_error {α β : Type} (change : α → β) (fault : Fault)
    (rest : List UInt8) : Outcome.map change (.error fault, rest) = (.error fault, rest) := rfl

/-- Bytes of the right number are taken from the front of a list as a memory. -/
theorem takeMemory_append (count : Nat) (bytes suffix : List UInt8)
    (length_eq : bytes.length = count) :
    takeMemory count (bytes ++ suffix) = (.ok (Memory.ofList bytes length_eq), suffix) := by
  subst length_eq
  have enough : hasAtLeast bytes.length (bytes ++ suffix) = true := by
    rw [hasAtLeast_iff, List.length_append]
    exact Nat.le_add_right _ _
  simp [takeMemory, enough]

namespace Codec

variable {α β : Type}

/-- A value that is read back in one form is read back in another form that keeps it. -/
theorem map_lawfulAt {codec : Codec α} {pack : α → β} {unpack : β → α} {value : β}
    (lawful : codec.LawfulAt (unpack value)) (inverse : pack (unpack value) = value) :
    (codec.map pack unpack).LawfulAt value := by
  intro suffix
  simp [map, lawful suffix, inverse]

/-- Two values that are each read back are read back in order. -/
theorem pair_lawfulAt {first : Codec α} {second : Codec β} {value : α × β}
    (head : first.LawfulAt value.1) (tail : second.LawfulAt value.2) :
    (first.pair second).LawfulAt value := by
  intro suffix
  simp [pair, List.append_assoc, head (second.encode value.2 ++ suffix), tail suffix]

/-- A known number of bytes is read back. -/
theorem memory_lawfulAt {size : Nat} (value : Memory size) : (memory size).LawfulAt value := by
  intro suffix
  have taken := takeMemory_append size value.toList suffix value.length_toList
  rw [Memory.ofList_toList] at taken
  exact taken

/-- A byte is read back. -/
theorem byte_lawfulAt (value : UInt8) : byte.LawfulAt value := by
  intro suffix
  change (takeMemory 1 ([value] ++ suffix)).map (·.read 0) = _
  rw [takeMemory_append 1 [value] suffix rfl, Outcome.map_ok, Memory.read_ofList _ _ _ (by decide)]
  rfl

/-- A flag is read back. -/
theorem flag_lawfulAt (value : Bool) : flag.LawfulAt value :=
  map_lawfulAt (byte_lawfulAt _) (by cases value <;> rfl)

/-- A word is read back. -/
theorem word_lawfulAt (value : UInt16) : word.LawfulAt value := by
  intro suffix
  change (takeMemory 2 ([lowByte value, highByte value] ++ suffix)).map
    (fun read => wordOf (read.read 0) (read.read 1)) = _
  rw [takeMemory_append 2 [lowByte value, highByte value] suffix rfl, Outcome.map_ok]
  simp [Memory.read_ofList, wordOf_lowByte_highByte]

/-- A signed number is read back. -/
theorem signedWord_lawfulAt (value : Int16) : signedWord.LawfulAt value :=
  map_lawfulAt (word_lawfulAt _) (by simp)

/-- A 32-bit word is read back. -/
theorem doubleWord_lawfulAt (value : UInt32) : doubleWord.LawfulAt value := by
  intro suffix
  let bytes := [lowByte (lowWord value), highByte (lowWord value), lowByte (highWord value),
    highByte (highWord value)]
  change (takeMemory 4 (bytes ++ suffix)).map (fun read =>
    doubleWordOf (wordOf (read.read 0) (read.read 1)) (wordOf (read.read 2) (read.read 3))) = _
  rw [takeMemory_append 4 bytes suffix rfl, Outcome.map_ok]
  simp [bytes, Memory.read_ofList, wordOf_lowByte_highByte, doubleWordOf_lowWord_highWord]

/-- A run of bytes whose length fits a 32-bit word is read back. -/
theorem counted_lawfulAt (value : List UInt8) (fits : value.length < UInt32.size) :
    counted.LawfulAt value := by
  intro suffix
  have exactLength : value.length.toUInt32.toNat = value.length := Nat.mod_eq_of_lt fits
  have length := doubleWord_lawfulAt value.length.toUInt32 (value ++ suffix)
  have body := takeMemory_append _ value suffix exactLength.symm
  simp [counted, List.append_assoc, length, body, Memory.toList_ofList]

/-- A packed run of bytes whose length fits a 32-bit word is read back. -/
theorem countedArray_lawfulAt (value : ByteArray) (fits : value.size < UInt32.size) :
    countedArray.LawfulAt value :=
  map_lawfulAt (counted_lawfulAt _ (by simpa using fits)) (by simp)

/-- Reading the encodings of a list returns the list. -/
theorem decodeList_lawful {codec : Codec α} (values : List α)
    (lawful : ∀ value ∈ values, codec.LawfulAt value) (suffix : List UInt8) {count : Nat}
    (length_eq : values.length = count) :
    decodeList codec count (values.flatMap codec.encode ++ suffix)
      = (.ok ⟨values, length_eq⟩, suffix) := by
  induction values generalizing count with
  | nil => subst length_eq; rfl
  | cons value values ih =>
    subst length_eq
    have head := lawful value List.mem_cons_self (values.flatMap codec.encode ++ suffix)
    have tail := ih (fun later member => lawful later (List.mem_cons_of_mem _ member)) rfl
    simp [decodeList, List.append_assoc, head, tail]

/-- A known number of values that are each read back is read back. -/
theorem vector_lawfulAt {codec : Codec α} {count : Nat} (values : Vector α count)
    (lawful : ∀ value ∈ values, codec.LawfulAt value) :
    (codec.vector count).LawfulAt values := by
  intro suffix
  have listed := decodeList_lawful values.toList
    (fun value member => lawful value (by simpa using member)) suffix values.length_toList
  simp only [vector, listed, Outcome.map_ok]
  rfl

end Codec

end Nes.SaveState
