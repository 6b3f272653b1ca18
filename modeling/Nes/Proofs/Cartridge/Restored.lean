import Nes.Proofs.Cartridge.Stored

/-!
# Boards out of any state

A state is a sequence of bytes that anyone may have written. Nearly every field of it is taken as it
is. One is not: the number of the register of board 4 that the next bank number goes to is cut to
the eight that there are. So whatever the bytes are, and whatever cartridge they are read over, the
board that is read names a register that exists (`Cartridge.storable_of_decode`).
-/
namespace Nes

namespace SaveState

/-- Whatever a read gives has a property. -/
def Outcome.Gives {α : Type} (Holds : α → Prop) (outcome : Outcome α) : Prop :=
  ∀ value, outcome.1 = .ok value → Holds value

namespace Outcome.Gives

variable {α β : Type} {Holds : α → Prop} {Linked : β → Prop}

/-- A read that fails gives nothing. -/
theorem fault (fault : Fault) (rest : List UInt8) : Gives Holds (.error fault, rest) := by
  intro value impossible
  cases impossible

/-- The last one of two reads decides what they give. -/
theorem andThen (outcome : Outcome β) {next : β → Reader α}
    (last : ∀ value rest, Gives Holds (next value rest)) : Gives Holds (outcome.andThen next) := by
  rcases outcome with ⟨fault | value, rest⟩
  · exact Gives.fault fault rest
  · exact last value rest

/-- What holds of every value given by an outcome, a change of the values carries over. -/
theorem map {outcome : Outcome α} (given : Gives Holds outcome) {change : α → β}
    (changed : ∀ value, Holds value → Linked (change value)) :
    Gives Linked (outcome.map change) := by
  rcases outcome with ⟨fault | value, rest⟩
  · exact Gives.fault fault rest
  · rintro _ ⟨⟩
    exact changed value (given value rfl)

end Outcome.Gives

/-- What every field of a layout keeps holds of a component that is loaded over one of which it
holds. -/
theorem Layout.gives_decode {σ : Type} {Holds : σ → Prop} {layout : Layout σ}
    (sets : ∀ field ∈ layout, ∀ value target, Holds target → Holds (field.set value target))
    {target : σ} (holds : Holds target) (bytes : List UInt8) :
    Outcome.Gives Holds (layout.decode target bytes) := by
  induction layout generalizing target bytes with
  | nil =>
    rintro _ ⟨⟩
    exact holds
  | cons field fields ih =>
    have later := fun other among => sets other (List.mem_cons_of_mem field among)
    rw [decode_cons]
    exact .andThen _ fun value rest =>
      ih later (sets field List.mem_cons_self value target holds) rest

end SaveState

open SaveState SaveState.Outcome

/-- The register number is cut when it is read, and no field after it touches it. -/
theorem Mmc3.targetInRange_of_decode (board : Mmc3) (bytes : List UInt8) :
    Gives TargetInRange (layout.decode board bytes) := by
  simp only [layout, List.append_assoc, List.cons_append, List.nil_append]
  rw [Layout.decode_cons]
  refine Gives.andThen _ fun banks rest => ?_
  rw [Layout.decode_cons]
  refine Gives.andThen _ fun number rest => Layout.gives_decode ?_ ?_ rest
  case refine_2 => exact target_cut number
  simp only [List.forall_mem_cons, List.forall_mem_append, List.forall_mem_ofFn_iff]
  exact ⟨fun _ _ kept => kept, fun _ _ kept => kept, fun _ _ kept => kept, fun _ _ kept => kept,
    fun _ _ _ kept => kept, fun _ _ _ kept => kept, fun _ _ kept => kept, fun _ _ kept => kept,
    fun _ _ kept => kept, fun _ _ kept => kept, fun _ _ kept => kept, by simp⟩

/-- A board that has been read from any bytes can be stored. -/
theorem Board.storable_of_decode (board : Board) (bytes : List UInt8) :
    Gives Storable (board.decode bytes) := by
  cases board
  case mmc3 board =>
    change Gives _ ((Mmc3.layout.load board bytes).map mmc3).whole
    rw [Layout.whole_map_load]
    exact (board.targetInRange_of_decode bytes).map fun _ inRange => inRange
  all_goals
    change Gives _ ((Layout.load _ _ bytes).map _).whole
    rw [Layout.whole_map_load]
    exact Gives.map (fun _ _ => trivial) fun _ (_ : True) => trivial

/-- A cartridge out of any bytes has a board whose state says all about its registers. -/
theorem Cartridge.storable_of_decode (cartridge : Cartridge) (bytes : List UInt8) :
    Gives (fun read => read.board.Storable) (cartridge.decode bytes) := by
  refine Gives.andThen _ fun head rest => ?_
  split
  · exact Gives.fault _ rest
  · exact (Board.storable_of_decode _ rest).map fun _ storable => storable

end Nes
