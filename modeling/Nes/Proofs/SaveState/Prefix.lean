import Nes.Proofs.SaveState.Layout

/-!
# Reading a part of the bytes

Stored bytes carry no marks, so a reader can tell a cut only by running out of bytes. Every reader
here is `Stable`: unless a read ran short, bytes put behind those it was given change nothing but
what is left. So a reader that reads some bytes whole runs short when it is given less of them,
wherever they are cut (`Reader.Stable.ranShort_of_cut`).
-/
namespace Nes.SaveState

/-- The read asked for more bytes than were left. -/
def Outcome.RanShort {α : Type} (outcome : Outcome α) : Prop :=
  ∃ needed remaining, outcome.1 = .error (.truncated needed remaining) ∧ remaining < needed

/-- Unless a read runs short, more bytes change nothing but what is left. -/
def Reader.Stable {α : Type} (reader : Reader α) : Prop :=
  ∀ bytes, (reader bytes).RanShort ∨
    ∀ more, reader (bytes ++ more) = ((reader bytes).1, (reader bytes).2 ++ more)

/-- Changing a value is a read that needs no bytes. -/
theorem Outcome.map_eq_andThen {α β : Type} (change : α → β) (outcome : Outcome α) :
    outcome.map change = outcome.andThen fun value rest => (.ok (change value), rest) := by
  rcases outcome with ⟨fault | value, rest⟩ <;> rfl

namespace Reader.Stable

variable {α β : Type}

/-- A value that needs no bytes is read stably. -/
theorem pure (value : α) : Stable fun bytes => (.ok value, bytes) :=
  fun _ => .inr fun _ => rfl

/-- So is a refusal. -/
theorem refuse (fault : Fault) : Stable fun bytes => ((.error fault, bytes) : Outcome α) :=
  fun _ => .inr fun _ => rfl

/-- A stable read that is followed by a stable one is stable. -/
theorem andThen {reader : Reader α} (stable : Stable reader) {next : α → Reader β}
    (nextStable : ∀ value, Stable (next value)) :
    Stable fun bytes => (reader bytes).andThen next := by
  intro bytes
  rcases stable bytes with ⟨needed, remaining, failed, short⟩ | same
  · refine .inl ⟨needed, remaining, ?_, short⟩
    rcases outcome : reader bytes with ⟨found, rest⟩
    rw [outcome] at failed
    obtain rfl : found = _ := failed
    simp only [outcome, Outcome.andThen_error]
  · rcases outcome : reader bytes with ⟨fault | value, rest⟩
    · refine .inr fun more => ?_
      simp only [same more, outcome, Outcome.andThen_error]
    · rw [outcome] at same
      simp only [Outcome.andThen_ok, outcome, same]
      exact nextStable value rest

/-- A stable read whose value is changed is stable. -/
theorem map {reader : Reader α} (stable : Stable reader) (change : α → β) :
    Stable fun bytes => (reader bytes).map change := by
  have followed := stable.andThen fun value => pure (change value)
  intro bytes
  simp only [Outcome.map_eq_andThen]
  exact followed bytes

variable {reader : Reader α} (stable : Stable reader)

include stable

/-- Bytes that are read to their end are all needed: a reader given less of them runs short. -/
theorem ranShort_of_cut {bytes front : List UInt8} {value : α}
    (read : reader bytes = (.ok value, [])) (cut : front <+: bytes) (less : front ≠ bytes) :
    (reader front).RanShort := by
  obtain ⟨back, rfl⟩ := cut
  rcases stable front with short | same
  · exact short
  · -- otherwise the bytes behind the cut would be left over
    have whole := same back
    rw [read] at whole
    have left : ([] : List UInt8) = (reader front).2 ++ back := congrArg Prod.snd whole
    have none : back = [] := (List.append_eq_nil_iff.1 left.symm).2
    rw [none, List.append_nil] at less
    exact absurd rfl less

end Reader.Stable

open Reader

/-- Taking a number of bytes is stable. -/
theorem takeMemory_stable (count : Nat) : Stable (takeMemory count) := by
  intro bytes
  by_cases enough : hasAtLeast count bytes = true
  · have fits : count ≤ bytes.length := (hasAtLeast_iff count bytes).1 enough
    refine .inr fun more => ?_
    have stillEnough : hasAtLeast count (bytes ++ more) = true := by
      rw [hasAtLeast_iff, List.length_append]
      omega
    simp only [takeMemory, dif_pos enough, dif_pos stillEnough,
      List.take_append_of_le_length fits, List.drop_append_of_le_length fits]
  · have short : bytes.length < count := by
      rw [hasAtLeast_iff] at enough
      omega
    refine .inl ⟨count, bytes.length, ?_, short⟩
    rw [takeMemory, dif_neg enough]

namespace Codec

variable {α β : Type}

/-- The values of the codec are read stably. -/
abbrev Stable (codec : Codec α) : Prop := Reader.Stable codec.decode

/-- Values made of others are read stably with them. -/
theorem map_stable {codec : Codec α} (stable : codec.Stable) (pack : α → β) (unpack : β → α) :
    (codec.map pack unpack).Stable := Reader.Stable.map stable pack

/-- A pair is read stably if both of its values are. -/
theorem pair_stable {first : Codec α} {second : Codec β} (head : first.Stable)
    (tail : second.Stable) : (first.pair second).Stable :=
  Reader.Stable.andThen head fun _ => Reader.Stable.map tail _

/-- A memory is read stably. -/
theorem memory_stable (size : Nat) : (memory size).Stable := takeMemory_stable size

/-- A byte is read stably. -/
theorem byte_stable : byte.Stable := (takeMemory_stable 1).map _

/-- A flag is read stably. -/
theorem flag_stable : flag.Stable := map_stable byte_stable _ _

/-- A word is read stably. -/
theorem word_stable : word.Stable := (takeMemory_stable 2).map _

/-- A signed word is read stably. -/
theorem signedWord_stable : signedWord.Stable := map_stable word_stable _ _

/-- A double word is read stably. -/
theorem doubleWord_stable : doubleWord.Stable := (takeMemory_stable 4).map _

/-- The length in front of a run of bytes tells how many are needed. -/
theorem counted_stable : counted.Stable :=
  doubleWord_stable.andThen fun length => (takeMemory_stable length.toNat).map _

/-- A counted array is read stably, although its length is read first. -/
theorem countedArray_stable : countedArray.Stable := map_stable counted_stable _ _

/-- A list of a known length is read stably if its values are. -/
theorem decodeList_stable {codec : Codec α} (stable : codec.Stable) (count : Nat) :
    Reader.Stable (decodeList codec count) := by
  induction count with
  | zero => exact Reader.Stable.pure _
  | succ count ih => exact Reader.Stable.andThen stable fun value => Reader.Stable.map ih _

/-- A vector is read stably if its values are. -/
theorem vector_stable {codec : Codec α} (stable : codec.Stable) (count : Nat) :
    (codec.vector count).Stable := (decodeList_stable stable count).map _

end Codec

namespace Layout

variable {σ τ : Type}

/-- Every field of a component is read stably. -/
def Stable (layout : Layout σ) : Prop := ∀ field ∈ layout, field.codec.Stable

/-- Without fields, nothing is read. -/
@[simp] theorem stable_nil : Stable ([] : Layout σ) := by
  simp [Stable]

/-- A layout is read stably where its first field and its other fields are. -/
@[simp] theorem stable_cons (field : StoredField σ) (layout : Layout σ) :
    Stable (field :: layout) ↔ field.codec.Stable ∧ Stable layout := by
  simp [Stable]

/-- A layout of two parts is read stably where both are. -/
@[simp] theorem stable_append (first second : Layout σ) :
    Stable (first ++ second) ↔ Stable first ∧ Stable second := by
  simp only [Stable, List.mem_append]
  constructor
  · intro stable
    exact ⟨fun field member => stable field (.inl member),
      fun field member => stable field (.inr member)⟩
  · rintro ⟨head, tail⟩ field (member | member)
    · exact head field member
    · exact tail field member

/-- The fields of a part are read in the whole as they are in the part. -/
theorem stable_focus {layout : Layout σ} (stable : layout.Stable) (part : τ → σ)
    (replace : σ → τ → τ) : (layout.focus part replace).Stable := by
  intro field member
  obtain ⟨inner, listed, rfl⟩ := List.mem_map.1 member
  exact stable inner listed

/-- The elements of a vector are read stably if one is. -/
theorem stable_elements {α : Type} {count : Nat} {codec : Codec α} (stable : codec.Stable)
    (part : σ → Vector α count) (replace : Vector α count → σ → σ) :
    Stable (List.ofFn (StoredField.element codec part replace)) := by
  intro field member
  obtain ⟨index, rfl⟩ := List.mem_ofFn.1 member
  exact stable

/-- A component whose fields are read stably is read stably. -/
theorem decode_stable {layout : Layout σ} (stable : layout.Stable) (target : σ) :
    Reader.Stable (layout.decode target) := by
  induction layout generalizing target with
  | nil => exact Reader.Stable.pure target
  | cons field fields ih =>
    obtain ⟨head, tail⟩ := (stable_cons field fields).1 stable
    have first := Reader.Stable.andThen head fun value => ih tail (field.set value target)
    intro bytes
    simp only [decode_cons]
    exact first bytes

end Layout

end Nes.SaveState
