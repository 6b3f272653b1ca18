import Nes.SaveState.Codec

/-!
# Layouts of stored components

A component of the machine is stored field by field. Its layout is the ordered list of those
fields, and both the writer and the reader run over that one list, so the two can not disagree
about the order. Loading assigns as it goes: after a failure the component keeps the fields that
stand before the failing one.
-/
namespace Nes.SaveState

/-- One stored field of a component. -/
structure StoredField (σ : Type) where
  /-- The type of the field's value. -/
  {α : Type}
  /-- How the value is stored. -/
  codec : Codec α
  /-- The value in a component. -/
  get : σ → α
  /-- The component with another value. -/
  set : α → σ → σ

/-- The fields of a component in stored order. -/
abbrev Layout (σ : Type) := List (StoredField σ)

/-- What loading a component gives: the component, the fault that ended the load if there was
one, and the bytes after those consumed. -/
structure Loaded (σ : Type) where
  /-- The component with every field that was read. -/
  value : σ
  /-- Why the load ended early. -/
  fault : Option Fault
  /-- The bytes not consumed. -/
  rest : List UInt8

namespace Loaded

variable {σ τ : Type}

/-- Change the component, however far it was loaded. -/
def map (change : σ → τ) (loaded : Loaded σ) : Loaded τ :=
  ⟨change loaded.value, loaded.fault, loaded.rest⟩

/-- The component if it was loaded whole. -/
def whole (loaded : Loaded σ) : Outcome σ :=
  match loaded with
  | ⟨value, none, rest⟩ => (.ok value, rest)
  | ⟨_, some fault, rest⟩ => (.error fault, rest)

end Loaded

namespace StoredField

variable {σ τ : Type}

/-- The field of a part, seen in the whole that the part belongs to. -/
def focus (field : StoredField σ) (part : τ → σ) (replace : σ → τ → τ) : StoredField τ where
  codec := field.codec
  get whole := field.get (part whole)
  set value whole := replace (field.set value (part whole)) whole

/-- The field of one element of a vector that is part of a component. -/
def element {α : Type} {count : Nat} (codec : Codec α) (part : σ → Vector α count)
    (replace : Vector α count → σ → σ) (index : Fin count) : StoredField σ where
  codec := codec
  get whole := (part whole)[index]
  set value whole := replace ((part whole).set index value) whole

/-- Copy the field from one component to another. -/
def copy (field : StoredField σ) (source target : σ) : σ := field.set (field.get source) target

end StoredField

namespace Layout

variable {σ τ : Type}

/-- The bytes of every field in order. -/
def encode (layout : Layout σ) (value : σ) : List UInt8 :=
  layout.flatMap fun field => field.codec.encode (field.get value)

/-- Assign every field in order, stopping at the first that can not be read. -/
def load : Layout σ → σ → List UInt8 → Loaded σ
  | [], value, bytes => ⟨value, none, bytes⟩
  | field :: fields, value, bytes =>
    match field.codec.decode bytes with
    | (.ok read, rest) => load fields (field.set read value) rest
    | (.error fault, rest) => ⟨value, some fault, rest⟩

/-- Load a component whole, or not at all. -/
def decode (layout : Layout σ) (value : σ) : Reader σ := fun bytes =>
  (layout.load value bytes).whole

/-- The layout of a part, seen in the whole that the part belongs to. -/
def focus (layout : Layout σ) (part : τ → σ) (replace : σ → τ → τ) : Layout τ :=
  layout.map fun field => field.focus part replace

/-- Copy every field in order from one component to another. -/
def copy (layout : Layout σ) (source target : σ) : σ :=
  layout.foldl (fun value field => field.copy source value) target

end Layout

end Nes.SaveState
