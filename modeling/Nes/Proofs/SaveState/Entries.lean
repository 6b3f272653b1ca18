import Mathlib.Algebra.GroupWithZero.Nat
import Nes.Proofs.SaveState.Codec
import Nes.SaveState.Layout

/-!
# Lists of stored values

A state is a list of typed values, one behind the other. Reads of the same types in the same order
give the values back and leave what stands behind them. If the bytes are cut anywhere, the reads
give the values that end in front of the cut, and then one of them runs short. Where it does follows
from the parts in which reads are made: one part for a value of a fixed size, the length and then
the body for a counted run. The part that fails is the first that ends behind the cut (`StopsAt`),
and it consumes nothing (`Reader.Takes`).
-/
namespace Nes.SaveState

/-- A read of a fixed number of bytes consumes just those. If fewer are left, it says how many and
consumes none. -/
structure Reader.Takes {α : Type} (reader : Reader α) (width : Nat) : Prop where
  /-- Enough bytes are left. -/
  enough : ∀ bytes, width ≤ bytes.length → ∃ value, reader bytes = (.ok value, bytes.drop width)
  /-- Too few bytes are left. -/
  short : ∀ bytes, bytes.length < width →
    reader bytes = (.error (.truncated width bytes.length), bytes)

/-- A memory is taken whole or not at all. -/
theorem takeMemory_takes (count : Nat) : Reader.Takes (takeMemory count) count where
  enough bytes fits := by
    have taken := takeMemory_append count (bytes.take count) (bytes.drop count)
      (List.length_take_of_le fits)
    rw [List.take_append_drop] at taken
    exact ⟨_, taken⟩
  short bytes less := by
    have lacking : ¬hasAtLeast count bytes = true := by
      rw [hasAtLeast_iff]
      exact Nat.not_le_of_lt less
    rw [takeMemory, dif_neg lacking]

/-- A change of the value that is read changes nothing about how much is read. -/
theorem Reader.Takes.map {α β : Type} {reader : Reader α} {width : Nat}
    (takes : reader.Takes width) (change : α → β) :
    Reader.Takes (fun bytes => (reader bytes).map change) width where
  enough bytes fits := by
    obtain ⟨value, read⟩ := takes.enough bytes fits
    exact ⟨change value, by rw [read, Outcome.map_ok]⟩
  short bytes less := by rw [takes.short bytes less, Outcome.map_error]

/-- A 32-bit word is read at once, in front of a counted run as well. -/
theorem Codec.doubleWord_takes : Reader.Takes doubleWord.decode 4 := (takeMemory_takes 4).map _

/-- A value that is read back by a read of a fixed size is stored in so many bytes. -/
theorem Reader.Takes.length_encode {α : Type} {codec : Codec α} {width : Nat}
    (takes : Reader.Takes codec.decode width) {value : α} (lawful : codec.LawfulAt value) :
    (codec.encode value).length = width := by
  have read := lawful []
  rw [List.append_nil] at read
  rcases Nat.lt_or_ge (codec.encode value).length width with less | fits
  · rw [takes.short _ less] at read
    nomatch congrArg Prod.fst read
  · obtain ⟨found, taken⟩ := takes.enough _ fits
    rw [taken] at read
    have left : (codec.encode value).drop width = [] := congrArg Prod.snd read
    exact Nat.le_antisymm (List.drop_eq_nil_iff.1 left) fits

/-- The kinds of values that states are made of. -/
inductive Kind where
  /-- One byte. -/
  | byte
  /-- A flag. -/
  | flag
  /-- A 16-bit word. -/
  | word
  /-- A signed 16-bit number. -/
  | signedWord
  /-- A 32-bit word. -/
  | doubleWord
  /-- A known number of raw bytes. -/
  | raw (size : Nat)
  /-- Any number of bytes behind that number. -/
  | counted

namespace Kind

/-- The values of a kind. -/
abbrev Value : Kind → Type
  | byte => UInt8
  | flag => Bool
  | word => UInt16
  | signedWord => Int16
  | doubleWord => UInt32
  | raw size => Memory size
  | counted => List UInt8

/-- How the values of a kind are stored. -/
def codec : (kind : Kind) → Codec kind.Value
  | byte => Codec.byte
  | flag => Codec.flag
  | word => Codec.word
  | signedWord => Codec.signedWord
  | doubleWord => Codec.doubleWord
  | raw size => Codec.memory size
  | counted => Codec.counted

/-- How many bytes a value of a kind takes, if all take the same number. -/
def width? : Kind → Option Nat
  | byte => some 1
  | flag => some 1
  | word => some 2
  | signedWord => some 2
  | doubleWord => some 4
  | raw size => some size
  | counted => none

/-- A value of a fixed size is read at once. -/
theorem codec_takes {kind : Kind} {width : Nat} (fixed : kind.width? = some width) :
    Reader.Takes kind.codec.decode width := by
  cases kind <;> cases fixed
  case byte => exact (takeMemory_takes 1).map _
  case flag => exact ((takeMemory_takes 1).map _).map _
  case word => exact (takeMemory_takes 2).map _
  case signedWord => exact ((takeMemory_takes 2).map _).map _
  case doubleWord => exact Codec.doubleWord_takes
  case raw => exact takeMemory_takes _

end Kind

/-- A value and its kind. -/
structure Entry where
  /-- The kind of the value. -/
  kind : Kind
  /-- The value. -/
  value : kind.Value

namespace Entry

/-- The bytes of an entry. -/
def bytes (entry : Entry) : List UInt8 := entry.kind.codec.encode entry.value

/-- A counted run has a length that fits the 32-bit word in front of it. -/
def Fits : Entry → Prop
  | ⟨.counted, run⟩ => List.length run < UInt32.size
  | _ => True

/-- The sizes of the parts in which an entry is read: the length of a counted run is read before
its body. -/
def parts : Entry → List Nat
  | ⟨.counted, run⟩ => [4, List.length run]
  | ⟨kind, _⟩ => kind.width?.toList

/-- An entry is a counted run, or it is read at once. -/
theorem counted_or_fixed (entry : Entry) :
    (∃ run : List UInt8, entry = ⟨.counted, run⟩) ∨
      ∃ width, entry.kind.width? = some width ∧ entry.parts = [width] := by
  obtain ⟨kind, value⟩ := entry
  cases kind
  case counted => exact .inl ⟨value, rfl⟩
  all_goals exact .inr ⟨_, rfl, rfl⟩

/-- A value that fits its kind is read back. -/
theorem lawfulAt {entry : Entry} (fits : entry.Fits) :
    entry.kind.codec.LawfulAt entry.value := by
  obtain ⟨kind, value⟩ := entry
  cases kind
  case byte => exact Codec.byte_lawfulAt value
  case flag => exact Codec.flag_lawfulAt value
  case word => exact Codec.word_lawfulAt value
  case signedWord => exact Codec.signedWord_lawfulAt value
  case doubleWord => exact Codec.doubleWord_lawfulAt value
  case raw => exact Codec.memory_lawfulAt value
  case counted => exact Codec.counted_lawfulAt value fits

/-- The parts of an entry make up its bytes. -/
theorem sum_parts {entry : Entry} (fits : entry.Fits) : entry.parts.sum = entry.bytes.length := by
  rcases entry.counted_or_fixed with ⟨run, rfl⟩ | ⟨width, fixed, alone⟩
  · have four := Codec.doubleWord_takes.length_encode
      (Codec.doubleWord_lawfulAt run.length.toUInt32)
    change [4, run.length].sum = (Codec.doubleWord.encode run.length.toUInt32 ++ run).length
    rw [List.length_append, four]
    simp
  · rw [alone, bytes, (Kind.codec_takes fixed).length_encode (lawfulAt fits)]
    simp

end Entry

/-- The bytes of some entries in order. -/
def writeEach (entries : List Entry) : List UInt8 := entries.flatMap Entry.bytes

/-- No entries have no bytes. -/
@[simp] theorem writeEach_nil : writeEach [] = [] := rfl

/-- The bytes of entries stand one behind the other. -/
@[simp] theorem writeEach_cons (entry : Entry) (entries : List Entry) :
    writeEach (entry :: entries) = entry.bytes ++ writeEach entries := rfl

/-- Where an entry ends is counted from the end of the first one. -/
theorem length_writeEach_take_succ (entry : Entry) (entries : List Entry) (number : Nat) :
    (writeEach ((entry :: entries).take (number + 1))).length
      = entry.bytes.length + (writeEach (entries.take number)).length := by
  rw [List.take_succ_cons, writeEach_cons, List.length_append]

/-- Read values of the given kinds in order, stopping at the first that can not be read. -/
def readEach : List Kind → List UInt8 → Loaded (List Entry)
  | [], bytes => ⟨[], none, bytes⟩
  | kind :: kinds, bytes =>
    match kind.codec.decode bytes with
    | (.ok value, rest) => (readEach kinds rest).map (⟨kind, value⟩ :: ·)
    | (.error fault, rest) => ⟨[], some fault, rest⟩

section Reads

variable {kind : Kind} {bytes rest : List UInt8} (kinds : List Kind)

/-- An entry that is read stands in front of those read behind it. -/
theorem readEach_cons_of_read {value : kind.Value}
    (read : kind.codec.decode bytes = (.ok value, rest)) :
    readEach (kind :: kinds) bytes = (readEach kinds rest).map (⟨kind, value⟩ :: ·) := by
  rw [readEach, read]

/-- An entry that is not read stops the rest, and its bytes are left. -/
theorem readEach_cons_of_fault {fault : Fault}
    (failed : kind.codec.decode bytes = (.error fault, rest)) :
    readEach (kind :: kinds) bytes = ⟨[], some fault, rest⟩ := by
  rw [readEach, failed]

end Reads

/-- Entries are read back from their bytes, and the bytes behind them are left. -/
theorem readEach_writeEach {entries : List Entry} (fits : ∀ entry ∈ entries, entry.Fits)
    (more : List UInt8) :
    readEach (entries.map Entry.kind) (writeEach entries ++ more) = ⟨entries, none, more⟩ := by
  induction entries with
  | nil => rfl
  | cons entry entries ih =>
    have read := Entry.lawfulAt (fits entry List.mem_cons_self) (writeEach entries ++ more)
    have others := ih fun later member => fits later (List.mem_cons_of_mem _ member)
    rw [List.map_cons, writeEach_cons, List.append_assoc, Entry.bytes,
      readEach_cons_of_read _ read, others]
    rfl

/-- A read in parts runs out of bytes: `passed` are the parts that lie inside the bytes, `needed`
is the size of the next part, and `left`, the bytes behind those of `passed`, are fewer. -/
inductive StopsAt : List Nat → List UInt8 → Nat → List UInt8 → Prop where
  /-- The part of size `needed` is the first that does not fit. -/
  | short {passed others : List Nat} {needed : Nat} {front left : List UInt8}
    (inside : passed.sum = front.length) (less : left.length < needed) :
    StopsAt (passed ++ needed :: others) (front ++ left) needed left

namespace StopsAt

variable {parts : List Nat} {bytes left : List UInt8} {needed : Nat}

/-- The bytes end inside the first part. -/
theorem first (less : left.length < needed) : StopsAt [needed] left needed left := by
  have nothing : ([] : List Nat).sum = ([] : List UInt8).length := rfl
  exact short nothing less

/-- The fault tells more than is left. -/
theorem lt (stops : StopsAt parts bytes needed left) : left.length < needed := by
  obtain ⟨-, less⟩ := stops
  exact less

/-- Parts that are still to be read make no difference. -/
theorem append (stops : StopsAt parts bytes needed left) (later : List Nat) :
    StopsAt (parts ++ later) bytes needed left := by
  obtain ⟨inside, less⟩ := stops
  rw [List.append_assoc, List.cons_append]
  exact short inside less

/-- Parts that were read before lie in front of the bytes. -/
theorem prepend (stops : StopsAt parts bytes needed left) {before : List Nat}
    {head : List UInt8} (whole : before.sum = head.length) :
    StopsAt (before ++ parts) (head ++ bytes) needed left := by
  obtain ⟨inside, less⟩ := stops
  rw [← List.append_assoc, ← List.append_assoc]
  refine short ?_ less
  rw [List.sum_append, List.length_append, whole, inside]

end StopsAt

/-- The read gives no value: it stops at the first of its parts that does not fit. -/
def Outcome.Stopped {α : Type} (outcome : Outcome α) (parts : List Nat) (bytes : List UInt8) :
    Prop :=
  ∃ needed left, outcome = (.error (.truncated needed left.length), left) ∧
    StopsAt parts bytes needed left

/-- A cut through two runs of bytes goes through the first or, behind it, through the second. -/
theorem cut_append {front head tail : List UInt8} (cut : front <+: head ++ tail)
    (less : front ≠ head ++ tail) :
    (front <+: head ∧ front ≠ head) ∨
      ∃ back, front = head ++ back ∧ back <+: tail ∧ back ≠ tail := by
  have behind : ∀ back, front = head ++ back → back <+: tail ∧ back ≠ tail := by
    rintro back rfl
    exact ⟨(List.prefix_append_right_inj head).1 cut, fun same => less (by rw [same])⟩
  by_cases same : front = head
  · have whole : front = head ++ [] := by rw [same, List.append_nil]
    exact .inr ⟨[], whole, behind [] whole⟩
  · rcases List.prefix_or_prefix_of_prefix cut (List.prefix_append head tail) with
      inside | ⟨back, rfl⟩
    · exact .inl ⟨inside, same⟩
    · exact .inr ⟨back, rfl, behind back rfl⟩

/-- A strict prefix is shorter. -/
theorem length_lt_of_cut {front bytes : List UInt8} (cut : front <+: bytes)
    (less : front ≠ bytes) : front.length < bytes.length :=
  Nat.lt_of_le_of_ne cut.length_le fun same => less (cut.eq_of_length same)

/-- A value of a fixed size that is cut is not read at all. -/
theorem Reader.Takes.stopped {α : Type} {codec : Codec α} {width : Nat}
    (takes : Reader.Takes codec.decode width) {value : α} (lawful : codec.LawfulAt value)
    {front : List UInt8} (cut : front <+: codec.encode value) (less : front ≠ codec.encode value) :
    (codec.decode front).Stopped [width] front := by
  have few : front.length < width := by
    rw [← takes.length_encode lawful]
    exact length_lt_of_cut cut less
  exact ⟨width, front, takes.short front few, .first few⟩

/-- A counted run that is cut is not read: the cut goes through its length, or the length is read
and the cut goes through the body. -/
theorem Codec.counted_stopped {run front : List UInt8} (fits : run.length < UInt32.size)
    (cut : front <+: counted.encode run) (less : front ≠ counted.encode run) :
    (counted.decode front).Stopped [4, run.length] front := by
  have lawful := doubleWord_lawfulAt run.length.toUInt32
  rcases cut_append cut less with ⟨inside, apart⟩ | ⟨body, rfl, inside, apart⟩
  · obtain ⟨needed, left, failed, stops⟩ := doubleWord_takes.stopped lawful inside apart
    refine ⟨needed, left, ?_, stops.append [run.length]⟩
    simp only [counted, failed, Outcome.andThen_error]
  · have exactLength : run.length.toUInt32.toNat = run.length := Nat.mod_eq_of_lt fits
    have few : body.length < run.length := length_lt_of_cut inside apart
    have failed := (takeMemory_takes run.length.toUInt32.toNat).short body (by
      rw [exactLength]
      exact few)
    have before : [4].sum = (doubleWord.encode run.length.toUInt32).length :=
      (doubleWord_takes.length_encode lawful).symm
    refine ⟨run.length, body, ?_, (StopsAt.first few).prepend before⟩
    simp only [counted, lawful body, Outcome.andThen_ok, failed, Outcome.map_error, exactLength]

/-- A cut entry is not read. -/
theorem Entry.stopped {entry : Entry} (fits : entry.Fits) {front : List UInt8}
    (cut : front <+: entry.bytes) (less : front ≠ entry.bytes) :
    (entry.kind.codec.decode front).Stopped entry.parts front := by
  rcases entry.counted_or_fixed with ⟨run, rfl⟩ | ⟨width, fixed, alone⟩
  · exact Codec.counted_stopped fits cut less
  · rw [alone]
    exact (Kind.codec_takes fixed).stopped (lawfulAt fits) cut less

/-- Bytes of entries that are cut give the entries that end in front of the cut, and then stop at
the first part that does not. -/
theorem readEach_of_cut {entries : List Entry} (fits : ∀ entry ∈ entries, entry.Fits)
    {front : List UInt8} (cut : front <+: writeEach entries) (less : front ≠ writeEach entries) :
    ∃ count needed left,
      readEach (entries.map Entry.kind) front
        = ⟨entries.take count, some (.truncated needed left.length), left⟩ ∧
      (∀ number ≤ entries.length,
        (writeEach (entries.take number)).length ≤ front.length ↔ number ≤ count) ∧
      StopsAt (entries.flatMap Entry.parts) front needed left := by
  induction entries generalizing front with
  | nil => exact absurd (List.prefix_nil.1 cut) less
  | cons entry entries ih =>
    have entryFits := fits entry List.mem_cons_self
    -- the cut goes through this entry, or this entry is read and the cut is behind it
    rcases cut_append cut less with ⟨inside, apart⟩ | ⟨back, rfl, inside, apart⟩
    · obtain ⟨needed, left, failed, stops⟩ := Entry.stopped entryFits inside apart
      refine ⟨0, needed, left, readEach_cons_of_fault _ failed, ?_, stops.append _⟩
      have short := length_lt_of_cut inside apart
      rintro (_ | number) -
      · simp
      · rw [length_writeEach_take_succ]
        omega
    · obtain ⟨count, needed, left, others, inFront, stops⟩ :=
        ih (fun later member => fits later (List.mem_cons_of_mem _ member)) inside apart
      have read := Entry.lawfulAt entryFits back
      refine ⟨count + 1, needed, left, ?_, ?_, stops.prepend (Entry.sum_parts entryFits)⟩
      · rw [List.map_cons, Entry.bytes, readEach_cons_of_read _ read, others]
        rfl
      · rintro (_ | number) within
        · simp
        · have later := inFront number (Nat.le_of_succ_le_succ within)
          rw [length_writeEach_take_succ, List.length_append]
          omega

/-- Let some entries be written, with no counted run too long for its length. Reads of their kinds
give them back and leave any bytes that stand behind them. If the bytes are cut, the reads give
just the entries that end in front of the cut, and then stop at the first part that does not: they
ask for the size of that part, which is more than is left there. A read of a fixed size that fails
consumes nothing. -/
theorem readEach_of_written {entries : List Entry} (fits : ∀ entry ∈ entries, entry.Fits) :
    (∀ more, readEach (entries.map Entry.kind) (writeEach entries ++ more)
      = ⟨entries, none, more⟩) ∧
    (∀ front, front <+: writeEach entries → front ≠ writeEach entries →
      ∃ count needed left,
        readEach (entries.map Entry.kind) front
          = ⟨entries.take count, some (.truncated needed left.length), left⟩ ∧
        left.length < needed ∧
        (∀ number ≤ entries.length,
          (writeEach (entries.take number)).length ≤ front.length ↔ number ≤ count) ∧
        StopsAt (entries.flatMap Entry.parts) front needed left) ∧
    ∀ (kind : Kind) (width : Nat), kind.width? = some width →
      Reader.Takes kind.codec.decode width := by
  refine ⟨readEach_writeEach fits, ?_, fun _ _ fixed => Kind.codec_takes fixed⟩
  intro front cut less
  obtain ⟨count, needed, left, reads, inFront, stops⟩ := readEach_of_cut fits cut less
  exact ⟨count, needed, left, reads, stops.lt, inFront, stops⟩

/-- Entries of several kinds, one of no bytes among them. -/
def mixedEntries : List Entry :=
  [⟨.byte, 7⟩, ⟨.raw 0, .zeros 0⟩, ⟨.signedWord, -2⟩, ⟨.counted, [1, 2, 3]⟩, ⟨.flag, true⟩]

/-- Their bytes up to the first one of the counted run. -/
def mixedFront : List UInt8 := [7, 0xFE, 0xFF, 3, 0, 0, 0, 1]

/-- Bytes that end inside the counted run give the three entries in front of it. -/
theorem readEach_of_written_mixed :
    (∀ entry ∈ mixedEntries, entry.Fits) ∧ mixedFront <+: writeEach mixedEntries ∧
      mixedFront ≠ writeEach mixedEntries ∧
      ∃ needed left,
        readEach (mixedEntries.map Entry.kind) mixedFront
          = ⟨mixedEntries.take 3, some (.truncated needed left.length), left⟩ ∧
        left.length < needed ∧ StopsAt [1, 0, 2, 4, 3, 1] mixedFront needed left := by
  have fits : ∀ entry ∈ mixedEntries, entry.Fits := by
    simp [mixedEntries, Entry.Fits, UInt32.size]
  have cut : mixedFront <+: writeEach mixedEntries := by decide
  have less : mixedFront ≠ writeEach mixedEntries := by decide
  obtain ⟨-, cuts, -⟩ := readEach_of_written fits
  obtain ⟨count, needed, left, reads, few, inFront, stops⟩ := cuts mixedFront cut less
  have three := (inFront 3 (by decide)).1 (by decide)
  have four := mt (inFront 4 (by decide)).2 (by decide)
  obtain rfl : count = 3 := by omega
  exact ⟨fits, cut, less, needed, left, reads, few, stops⟩

/-- The read asks for the three bytes of the run, of which one is left. -/
example : readEach (mixedEntries.map Entry.kind) mixedFront
    = ⟨mixedEntries.take 3, some (.truncated 3 1), [1]⟩ := rfl

end Nes.SaveState
