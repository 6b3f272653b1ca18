import Nes.Memory
import Nes.Word

/-!
# Codecs of stored values

A save state is a plain sequence of bytes without marks of its own. A `Codec` writes a value as
bytes and reads it back from the front of a byte list. Reading returns the bytes not consumed
also when it fails, since a failing read of a fixed size consumes nothing, while the length of a
counted run of bytes stays consumed when its body is short.
-/
namespace Nes.SaveState

/-- Why a machine could not be stored or restored. -/
inductive Fault where
  /-- A read asked for more bytes than were left. -/
  | truncated (needed remaining : Nat)
  /-- The state names a cartridge board that does not exist here. -/
  | unsupportedBoard (number : UInt8)
  /-- A machine without a cartridge has no state. -/
  | noCartridge
deriving DecidableEq

/-- The text shown for a fault. -/
def Fault.message : Fault → String
  | truncated needed remaining =>
    s!"save state truncated: needed {needed} bytes, {remaining} remaining"
  | unsupportedBoard number => s!"save state refers to unsupported mapper {number.toNat}"
  | noCartridge => "no cartridge is inserted"

/-- The outcome of a read, and the bytes after those consumed. -/
abbrev Outcome (α : Type) := Except Fault α × List UInt8

/-- A prefix reader of one type. -/
abbrev Reader (α : Type) := List UInt8 → Outcome α

/-- A writer and a prefix reader of one stored type. -/
structure Codec (α : Type) where
  /-- Bytes in stored order. -/
  encode : α → List UInt8
  /-- Read one value from the front. -/
  decode : Reader α

/-- Whether a list has at least `count` members, looking at no more of them than that. -/
def hasAtLeast : Nat → List UInt8 → Bool
  | 0, _ => true
  | _ + 1, [] => false
  | count + 1, _ :: rest => hasAtLeast count rest

/-- The test for enough bytes looks no further than it needs, and says what the length would. -/
theorem hasAtLeast_iff (count : Nat) (bytes : List UInt8) :
    hasAtLeast count bytes = true ↔ count ≤ bytes.length := by
  induction count generalizing bytes with
  | zero => simp [hasAtLeast]
  | succ count ih => cases bytes <;> simp [hasAtLeast, ih]

/-- Read exactly `count` bytes, or fail and consume none. -/
def takeMemory (count : Nat) : Reader (Memory count) := fun bytes =>
  if enough : hasAtLeast count bytes then
    (.ok (Memory.ofList (bytes.take count) (by
      rw [List.length_take]
      exact Nat.min_eq_left ((hasAtLeast_iff count bytes).1 enough))), bytes.drop count)
  else
    (.error (.truncated count bytes.length), bytes)

/-- Carry the value of a read on to a second read of what is left. -/
@[inline] def Outcome.andThen {α β : Type} (outcome : Outcome α) (next : α → Reader β) :
    Outcome β :=
  match outcome with
  | (.ok value, rest) => next value rest
  | (.error fault, rest) => (.error fault, rest)

/-- Change the value of a successful read. -/
@[inline] def Outcome.map {α β : Type} (change : α → β) (outcome : Outcome α) : Outcome β :=
  match outcome with
  | (.ok value, rest) => (.ok (change value), rest)
  | (.error fault, rest) => (.error fault, rest)

namespace Codec

variable {α β : Type}

/-- Reading the bytes of one value, followed by any bytes, returns the value and those bytes. -/
abbrev LawfulAt (codec : Codec α) (value : α) : Prop :=
  ∀ suffix, codec.decode (codec.encode value ++ suffix) = (.ok value, suffix)

/-- Store a value in the form of another type. -/
def map (codec : Codec α) (pack : α → β) (unpack : β → α) : Codec β where
  encode value := codec.encode (unpack value)
  decode bytes := (codec.decode bytes).map pack

/-- Two values in order. -/
def pair (first : Codec α) (second : Codec β) : Codec (α × β) where
  encode value := first.encode value.1 ++ second.encode value.2
  decode bytes := (first.decode bytes).andThen fun left rest =>
    (second.decode rest).map fun right => (left, right)

/-- A known number of raw bytes. -/
def memory (size : Nat) : Codec (Memory size) := ⟨Memory.toList, takeMemory size⟩

/-- One byte. -/
def byte : Codec UInt8 where
  encode value := [value]
  decode bytes := (takeMemory 1 bytes).map (·.read 0)

/-- A flag as one byte; any byte but zero reads as set. -/
def flag : Codec Bool := byte.map (· != 0) Bool.toUInt8

/-- A 16-bit word, low byte first. -/
def word : Codec UInt16 where
  encode value := [lowByte value, highByte value]
  decode bytes := (takeMemory 2 bytes).map fun read => wordOf (read.read 0) (read.read 1)

/-- A signed 16-bit number in two's complement, low byte first. -/
def signedWord : Codec Int16 := word.map UInt16.toInt16 Int16.toUInt16

/-- A 32-bit word, low byte first. -/
def doubleWord : Codec UInt32 where
  encode value := word.encode (lowWord value) ++ word.encode (highWord value)
  decode bytes := (takeMemory 4 bytes).map fun read =>
    doubleWordOf (wordOf (read.read 0) (read.read 1)) (wordOf (read.read 2) (read.read 3))

/-- A run of bytes behind its length, which is stored as a 32-bit word. -/
def counted : Codec (List UInt8) where
  encode value := doubleWord.encode value.length.toUInt32 ++ value
  decode bytes := (doubleWord.decode bytes).andThen fun length rest =>
    (takeMemory length.toNat rest).map Memory.toList

/-- A run of bytes behind its length, kept as a packed array. -/
def countedArray : Codec ByteArray := counted.map (fun bytes => ⟨bytes.toArray⟩) (·.data.toList)

/-- Read `count` values in order. -/
def decodeList (codec : Codec α) :
    (count : Nat) → Reader { values : List α // values.length = count }
  | 0 => fun bytes => (.ok ⟨[], rfl⟩, bytes)
  | count + 1 => fun bytes => (codec.decode bytes).andThen fun value rest =>
    (decodeList codec count rest).map fun values => ⟨value :: values.1, by simp [values.2]⟩

/-- A known number of values in order. -/
def vector (codec : Codec α) (count : Nat) : Codec (Vector α count) where
  encode values := values.toList.flatMap codec.encode
  decode bytes := (decodeList codec count bytes).map fun values =>
    ⟨values.1.toArray, by simp [values.2]⟩

end Codec

end Nes.SaveState
