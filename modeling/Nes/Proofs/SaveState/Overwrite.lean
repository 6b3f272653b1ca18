import Nes.Proofs.SaveState.Layout

/-!
# Loading over different components

The same bytes are loaded over two components. The reads go through the same fields with the same
results, so they fail at one place or not at all (`Outcome.Alike`). What they leave agrees wherever
a field was assigned; whether that is everywhere is for the layout of each component to show, field
by field (`Layout.alike_cons`).
-/
namespace Nes.SaveState

/-- Two reads fail with one fault or give related values, and leave the same bytes. -/
inductive Outcome.Alike {α β : Type} (Related : α → β → Prop) : Outcome α → Outcome β → Prop where
  /-- Both fail. -/
  | fault (fault : Fault) (rest : List UInt8) :
    Alike Related (.error fault, rest) (.error fault, rest)
  /-- Both succeed. -/
  | value {left : α} {right : β} (related : Related left right) (rest : List UInt8) :
    Alike Related (.ok left, rest) (.ok right, rest)

namespace Outcome.Alike

variable {α β γ δ : Type} {Related : α → β → Prop} {Linked : γ → δ → Prop}

/-- A read agrees with itself. -/
theorem refl (outcome : Outcome α) : Alike Eq outcome outcome := by
  rcases outcome with ⟨fault | value, rest⟩
  · exact .fault fault rest
  · exact .value rfl rest

/-- Reads that agree are followed by reads that agree. -/
theorem andThen {left : Outcome α} {right : Outcome β} (alike : Alike Related left right)
    {leftNext : α → Reader γ} {rightNext : β → Reader δ}
    (next : ∀ {leftValue rightValue}, Related leftValue rightValue → ∀ rest,
      Alike Linked (leftNext leftValue rest) (rightNext rightValue rest)) :
    Alike Linked (left.andThen leftNext) (right.andThen rightNext) := by
  cases alike with
  | fault fault rest => exact .fault fault rest
  | value related rest => exact next related rest

/-- The values of reads that agree are changed alike. -/
theorem map {left : Outcome α} {right : Outcome β} (alike : Alike Related left right)
    {leftChange : α → γ} {rightChange : β → δ}
    (changed : ∀ {leftValue rightValue}, Related leftValue rightValue →
      Linked (leftChange leftValue) (rightChange rightValue)) :
    Alike Linked (left.map leftChange) (right.map rightChange) := by
  cases alike with
  | fault fault rest => exact .fault fault rest
  | value related rest => exact .value (changed related) rest

end Outcome.Alike

namespace Layout

open Outcome

variable {σ τ : Type} {Related : σ → σ → Prop} {bytes : List UInt8}

/-- Nothing is left to be assigned. -/
theorem alike_nil {one two : σ} (related : Related one two) :
    Alike Related (decode [] one bytes) (decode [] two bytes) := .value related bytes

/-- Both components are assigned one value, and then the other fields. -/
theorem alike_cons {field : StoredField σ} {fields : Layout σ} {one two : σ}
    (others : ∀ value {bytes},
      Alike Related (fields.decode (field.set value one) bytes)
        (fields.decode (field.set value two) bytes)) :
    Alike Related (decode (field :: fields) one bytes) (decode (field :: fields) two bytes) := by
  rw [decode_cons, decode_cons]
  refine (Alike.refl (field.codec.decode bytes)).andThen ?_
  rintro value _ rfl rest
  exact others value

/-- Both components are assigned one vector, element by element, and then the other fields. -/
theorem alike_elements {α : Type} {count : Nat} (codec : Codec α) (part : σ → Vector α count)
    (replace : Vector α count → σ → σ)
    (part_replace : ∀ values whole, part (replace values whole) = values)
    (replace_replace : ∀ values earlier whole,
      replace values (replace earlier whole) = replace values whole)
    (replace_part : ∀ whole, replace (part whole) whole = whole) {fields : Layout σ} {one two : σ}
    (others : ∀ values {bytes},
      Alike Related (fields.decode (replace values one) bytes)
        (fields.decode (replace values two) bytes)) :
    Alike Related
      (decode (List.ofFn (StoredField.element codec part replace) ++ fields) one bytes)
      (decode (List.ofFn (StoredField.element codec part replace) ++ fields) two bytes) := by
  -- by induction on the elements that are still to be assigned; the others agree already
  have assign : ∀ (pending : List (Fin count)) (first second : Vector α count)
      (bytes : List UInt8),
      (∀ index : Fin count, index ∉ pending → first[index] = second[index]) →
      Alike Related
        (decode (pending.map (StoredField.element codec part replace) ++ fields)
          (replace first one) bytes)
        (decode (pending.map (StoredField.element codec part replace) ++ fields)
          (replace second two) bytes) := by
    intro pending
    induction pending with
    | nil =>
      intro first second bytes agree
      have same : first = second := by
        apply Vector.ext
        intro index inside
        exact agree ⟨index, inside⟩ List.not_mem_nil
      subst same
      exact others first
    | cons next pending ih =>
      intro first second bytes agree
      refine alike_cons fun (value : α) bytes => ?_
      simp only [StoredField.element, part_replace, replace_replace]
      apply ih
      intro index assigned
      by_cases here : next = index
      · subst here
        simp
      · have apart : next.val ≠ index.val := fun same => here (Fin.ext same)
        have before := agree index (by simp [assigned, Ne.symm here])
        simpa [apart] using before
  have started := assign (List.finRange count) (part one) (part two) bytes
    (fun index left => absurd (List.mem_finRange index) left)
  rw [replace_part, replace_part] at started
  rw [List.ofFn_eq_map]
  exact started

end Layout

end Nes.SaveState
