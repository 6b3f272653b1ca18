import Nes.SaveState.Layout
import Nes.Proofs.SaveState.Codec
import Mathlib.Data.List.FinRange

/-!
# Laws of layouts

Loading what a layout wrote copies every field of the layout from the component that was written
to the component that is loaded into (`Layout.load_encode`), whatever stood there before. What a
component holds beyond its layout is left alone, so a layout is complete exactly where copying
all of its fields gives the written component.
-/
namespace Nes.SaveState

/-- Setting elements one by one from a source changes just those elements. -/
theorem getElem_setEach {α : Type} {count : Nat} (source : Vector α count)
    (indices : List (Fin count)) (target : Vector α count) (place : Nat) (inside : place < count) :
    (indices.foldl (fun values index => values.set index source[index]) target)[place]
      = if ⟨place, inside⟩ ∈ indices then source[place] else target[place] := by
  induction indices generalizing target with
  | nil => simp
  | cons index indices ih =>
    rw [List.foldl_cons, ih]
    by_cases later : ⟨place, inside⟩ ∈ indices
    · simp [later]
    · by_cases here : index = ⟨place, inside⟩
      · subst here
        simp [later]
      · have apart : index.val ≠ place := fun same => here (Fin.ext same)
        simp [later, apart, Ne.symm here]

namespace Layout

variable {σ τ : Type}

/-- Every field of a component is read back. -/
def LawfulAt (layout : Layout σ) (source : σ) : Prop :=
  ∀ field ∈ layout, field.codec.LawfulAt (field.get source)

/-- Without fields, there is nothing to read back. -/
@[simp] theorem lawfulAt_nil (source : σ) : LawfulAt [] source := by
  simp [LawfulAt]

/-- A layout is lawful where its first field and its other fields are. -/
@[simp] theorem lawfulAt_cons (field : StoredField σ) (layout : Layout σ) (source : σ) :
    LawfulAt (field :: layout) source ↔
      field.codec.LawfulAt (field.get source) ∧ LawfulAt layout source := by
  simp [LawfulAt]

/-- A layout of two parts is lawful where both are. -/
@[simp] theorem lawfulAt_append (first second : Layout σ) (source : σ) :
    LawfulAt (first ++ second) source ↔ LawfulAt first source ∧ LawfulAt second source := by
  simp only [LawfulAt, List.mem_append]
  constructor
  · intro lawful
    exact ⟨fun field member => lawful field (.inl member),
      fun field member => lawful field (.inr member)⟩
  · rintro ⟨head, tail⟩ field (member | member)
    · exact head field member
    · exact tail field member

/-- Without fields, nothing is copied. -/
@[simp] theorem copy_nil (source target : σ) : copy [] source target = target := rfl

/-- Fields are copied in order. -/
@[simp] theorem copy_cons (field : StoredField σ) (layout : Layout σ) (source target : σ) :
    copy (field :: layout) source target = copy layout source (field.copy source target) := rfl

/-- The fields of two parts are copied one part after the other. -/
@[simp] theorem copy_append (first second : Layout σ) (source target : σ) :
    copy (first ++ second) source target = copy second source (copy first source target) := by
  simp [copy]

/-- Copying every element of a vector copies the vector. -/
theorem copy_elements {α : Type} {count : Nat} (codec : Codec α)
    (part : σ → Vector α count) (replace : Vector α count → σ → σ)
    (part_replace : ∀ values whole, part (replace values whole) = values)
    (replace_replace : ∀ values earlier whole,
      replace values (replace earlier whole) = replace values whole)
    (replace_part : ∀ whole, replace (part whole) whole = whole) (source target : σ) :
    copy (List.ofFn (StoredField.element codec part replace)) source target
      = replace (part source) target := by
  have fold : ∀ (indices : List (Fin count)) (whole : σ),
      copy (indices.map (StoredField.element codec part replace)) source whole
        = replace
            (indices.foldl (fun values (index : Fin count) => values.set index (part source)[index])
              (part whole))
            whole := by
    intro indices
    induction indices with
    | nil => intro whole; exact (replace_part whole).symm
    | cons index indices ih =>
      intro whole
      rw [List.map_cons, copy_cons, ih]
      simp only [StoredField.copy, StoredField.element, part_replace, replace_replace,
        List.foldl_cons]
  rw [List.ofFn_eq_map, fold]
  congr 1
  ext place inside
  rw [getElem_setEach, if_pos (List.mem_finRange _)]

/-- The fields of a part are read back in the whole as they are in the part. -/
theorem lawfulAt_focus {layout : Layout σ} {part : τ → σ} (replace : σ → τ → τ) {whole : τ}
    (lawful : layout.LawfulAt (part whole)) : (layout.focus part replace).LawfulAt whole := by
  intro field member
  obtain ⟨inner, listed, rfl⟩ := List.mem_map.1 member
  exact lawful inner listed

/-- A component is read by its first field and then by the others. -/
theorem decode_cons (field : StoredField σ) (fields : Layout σ) (target : σ)
    (bytes : List UInt8) :
    decode (field :: fields) target bytes
      = (field.codec.decode bytes).andThen fun value => fields.decode (field.set value target) := by
  rw [decode, load]
  rcases field.codec.decode bytes with ⟨fault | value, rest⟩ <;> rfl

/-- A component that is loaded under another name is decoded under that name. -/
theorem whole_map_load (layout : Layout σ) (target : σ) (bytes : List UInt8) (change : σ → τ) :
    ((layout.load target bytes).map change).whole = (layout.decode target bytes).map change := by
  rw [decode]
  rcases layout.load target bytes with ⟨value, _ | fault, rest⟩ <;> rfl

/-- Loading the bytes of a component copies its fields and leaves the bytes behind them. -/
theorem load_encode {layout : Layout σ} {source : σ} (lawful : layout.LawfulAt source)
    (target : σ) (suffix : List UInt8) :
    layout.load target (layout.encode source ++ suffix)
      = ⟨layout.copy source target, none, suffix⟩ := by
  induction layout generalizing target with
  | nil => rfl
  | cons field fields ih =>
    rw [lawfulAt_cons] at lawful
    obtain ⟨head, tail⟩ := lawful
    have read := head (encode fields source ++ suffix)
    have rest := ih tail (field.copy source target)
    simp only [encode, List.flatMap_cons, List.append_assoc] at read rest ⊢
    simp only [load, read]
    exact rest

/-- A component is loaded whole from its own bytes. -/
theorem decode_encode {layout : Layout σ} {source : σ} (lawful : layout.LawfulAt source)
    (target : σ) (suffix : List UInt8) :
    layout.decode target (layout.encode source ++ suffix)
      = (.ok (layout.copy source target), suffix) := by
  rw [decode, load_encode lawful]
  rfl

end Layout

end Nes.SaveState
