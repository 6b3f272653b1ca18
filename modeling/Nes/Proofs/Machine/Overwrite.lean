import Nes.Proofs.Machine.Stored
import Nes.Proofs.SaveState.Overwrite

/-!
# A state replaces the whole machine

The bytes of a state decide what is loaded, and the machine that they are loaded over does not.
Every component assigns all of its fields, and so does every board, whether it is the one at hand
or a new one. Two things are no part of a state and stay as they were: the revision of the image on
the label, and the choice whether to draw (`Machine.withUnsaved`). Neither has a part in anything
that the machine does or saves later.
-/
namespace Nes

open SaveState SaveState.Layout

/-- The state of a processor says all of it. -/
theorem Cpu.layout_alike (one two : Cpu) (bytes : List UInt8) :
    Outcome.Alike Eq (Cpu.layout.decode one bytes) (Cpu.layout.decode two bytes) := by
  iterate 11 refine alike_cons fun _ => ?_
  exact alike_nil rfl

/-- Two buses agree on everything but the picture chip and the cartridge. -/
def Bus.AlikeAround (left right : Bus) : Prop :=
  ∀ ppu slot, { left with ppu, slot } = { right with ppu, slot }

/-- The state of a bus says all of it but the picture chip and the cartridge, which have states of
their own. -/
theorem Bus.layout_alike (one two : Bus) (bytes : List UInt8) :
    Outcome.Alike AlikeAround (Bus.layout.decode one bytes) (Bus.layout.decode two bytes) := by
  iterate 8 refine alike_cons fun _ => ?_
  exact alike_nil fun ppu slot => rfl

/-- Two picture chips agree on everything but the choice whether to draw. -/
def Ppu.AlikeButDrawing (left right : Ppu) : Prop :=
  ∀ draws, left.withDraws draws = right.withDraws draws

/-- The state of a picture chip says all of it but the choice whether to draw. -/
theorem Ppu.layout_alike (one two : Ppu) (bytes : List UInt8) :
    Outcome.Alike AlikeButDrawing (Ppu.layout.decode one bytes) (Ppu.layout.decode two bytes) := by
  iterate 27 refine alike_cons fun _ => ?_
  exact alike_nil fun draws => rfl

/-- The state of board 0 says all of it. -/
theorem Nrom.layout_alike (one two : Nrom) (bytes : List UInt8) :
    Outcome.Alike Eq (Nrom.layout.decode one bytes) (Nrom.layout.decode two bytes) := by
  refine alike_cons fun _ => ?_
  exact alike_nil rfl

/-- The state of board 2 says all of it. -/
theorem Uxrom.layout_alike (one two : Uxrom) (bytes : List UInt8) :
    Outcome.Alike Eq (Uxrom.layout.decode one bytes) (Uxrom.layout.decode two bytes) := by
  iterate 3 refine alike_cons fun _ => ?_
  exact alike_nil rfl

/-- The state of board 3 says all of it. -/
theorem Cnrom.layout_alike (one two : Cnrom) (bytes : List UInt8) :
    Outcome.Alike Eq (Cnrom.layout.decode one bytes) (Cnrom.layout.decode two bytes) := by
  iterate 2 refine alike_cons fun _ => ?_
  exact alike_nil rfl

/-- The state of board 66 says all of it. -/
theorem Gxrom.layout_alike (one two : Gxrom) (bytes : List UInt8) :
    Outcome.Alike Eq (Gxrom.layout.decode one bytes) (Gxrom.layout.decode two bytes) := by
  iterate 3 refine alike_cons fun _ => ?_
  exact alike_nil rfl

/-- The state of board 1 says all of it. -/
theorem Mmc1.layout_alike (one two : Mmc1) (bytes : List UInt8) :
    Outcome.Alike Eq (Mmc1.layout.decode one bytes) (Mmc1.layout.decode two bytes) := by
  iterate 12 refine alike_cons fun _ => ?_
  exact alike_nil rfl

/-- The windows of board 4 are stored one by one, and all of them are. -/
theorem Mmc3.layout_alike (one two : Mmc3) (bytes : List UInt8) :
    Outcome.Alike Eq (Mmc3.layout.decode one bytes) (Mmc3.layout.decode two bytes) := by
  simp only [Mmc3.layout, List.append_assoc, List.cons_append, List.nil_append]
  iterate 6 refine alike_cons fun _ => ?_
  refine alike_elements Codec.doubleWord Mmc3.characterWindows
    (fun characterWindows (board : Mmc3) => { board with characterWindows })
    (fun _ _ => rfl) (fun _ _ _ => rfl) (fun _ => rfl) fun _ {_} => ?_
  refine alike_elements Codec.doubleWord Mmc3.programWindows
    (fun programWindows (board : Mmc3) => { board with programWindows })
    (fun _ _ => rfl) (fun _ _ _ => rfl) (fun _ => rfl) fun _ {_} => ?_
  iterate 5 refine alike_cons fun _ => ?_
  exact alike_nil rfl

namespace Board

/-- Registers that are loaded alike make boards that are loaded alike. -/
theorem load_alike {σ : Type} {layout : Layout σ} {one two : σ} {bytes : List UInt8}
    (alike : Outcome.Alike Eq (layout.decode one bytes) (layout.decode two bytes))
    (kind : σ → Board) :
    Outcome.Alike Eq ((layout.load one bytes).map kind).whole
      ((layout.load two bytes).map kind).whole := by
  rw [whole_map_load, whole_map_load]
  exact alike.map fun same => congrArg kind same

/-- The state of a board says all of it but its number. -/
theorem decode_alike {one two : Board} (same : one.number = two.number) (bytes : List UInt8) :
    Outcome.Alike Eq (one.decode bytes) (two.decode bytes) := by
  cases one <;> cases two <;> try cases same
  case nrom.nrom one two => exact load_alike (one.layout_alike two bytes) nrom
  case mmc1.mmc1 one two => exact load_alike (one.layout_alike two bytes) mmc1
  case uxrom.uxrom one two => exact load_alike (one.layout_alike two bytes) uxrom
  case cnrom.cnrom one two => exact load_alike (one.layout_alike two bytes) cnrom
  case mmc3.mmc3 one two => exact load_alike (one.layout_alike two bytes) mmc3
  case gxrom.gxrom one two => exact load_alike (one.layout_alike two bytes) gxrom

end Board

namespace Cartridge

/-- A board at hand is used only where a new one could be made, so whether a state names a board
that exists does not depend on the board at hand, and neither does the number of the board used. -/
theorem boardFor?_alike (one two : Board) (head : StoredHead) :
    (boardFor? one head = none ∧ boardFor? two head = none) ∨
      ∃ first second, boardFor? one head = some first ∧ boardFor? two head = some second ∧
        first.number = second.number := by
  have made (board : Board) :
      boardFor? board head = none ∧ Board.ofNumber? head.boardNumber head.banks = none ∨
        ∃ used fresh, boardFor? board head = some used ∧ used.number = head.boardNumber ∧
          Board.ofNumber? head.boardNumber head.banks = some fresh := by
    by_cases same : board.number = head.boardNumber
    · obtain ⟨fresh, found, -⟩ := board.exists_ofNumber? head.banks
      rw [same] at found
      exact .inr ⟨board, fresh, if_pos same, same, found⟩
    · rcases found : Board.ofNumber? head.boardNumber head.banks with _ | fresh
      · exact .inl ⟨(if_neg same).trans found, rfl⟩
      · exact .inr ⟨fresh, fresh, (if_neg same).trans found, Board.number_of_ofNumber? found, rfl⟩
  rcases made one with ⟨noFirst, none⟩ | ⟨first, fresh, foundFirst, firstNumber, some⟩
  · rcases made two with ⟨noSecond, -⟩ | ⟨_, _, -, -, found⟩
    · exact .inl ⟨noFirst, noSecond⟩
    · rw [none] at found
      cases found
  · rcases made two with ⟨-, found⟩ | ⟨second, _, foundSecond, secondNumber, -⟩
    · rw [some] at found
      cases found
    · exact .inr ⟨first, second, foundFirst, foundSecond, firstNumber.trans secondNumber.symm⟩

/-- Two cartridges agree on everything but the revision of the image. -/
def AlikeButRevision (left right : Cartridge) : Prop :=
  ∀ revision, { left with revision } = { right with revision }

/-- The state of a cartridge says all of it but the revision of the image. -/
theorem decode_alike (one two : Cartridge) (bytes : List UInt8) :
    Outcome.Alike AlikeButRevision (one.decode bytes) (two.decode bytes) := by
  refine (Outcome.Alike.refl (StoredHead.layout.decode .blank bytes)).andThen ?_
  rintro head _ rfl rest
  rcases boardFor?_alike one.board two.board head with
    ⟨noFirst, noSecond⟩ | ⟨first, second, foundFirst, foundSecond, same⟩
  · simp only [noFirst, noSecond]
    exact .fault _ rest
  · simp only [foundFirst, foundSecond]
    refine (Board.decode_alike same rest).map ?_
    rintro board _ rfl revision
    rfl

end Cartridge

namespace Machine

/-- The machine with other values for what is no part of its state: the revision of the image on
the label, and the choice whether to draw. -/
def withUnsaved (machine : Machine) (revision : ImageRevision) (draws : Bool) : Machine :=
  ⟨machine.cpu, { machine.bus with
    ppu := machine.bus.ppu.withDraws draws
    slot := machine.bus.slot.map fun cartridge => { cartridge with revision } }⟩

/-- Two machines with a cartridge that agree on everything that is a part of their states. -/
structure AlikeSaved (left right : Machine) : Prop where
  /-- There is a cartridge. -/
  inserted : ∃ cartridge, left.bus.slot = some cartridge
  /-- The machines agree once the rest is made the same. -/
  same : ∀ revision draws, left.withUnsaved revision draws = right.withUnsaved revision draws

/-- The state of a machine says all of it but the revision of the image and the choice whether to
draw. -/
theorem decode_alike (one two : Machine) (bytes : List UInt8) :
    Outcome.Alike AlikeSaved (one.decode bytes) (two.decode bytes) := by
  refine (Bus.layout_alike one.bus two.bus bytes).andThen fun around rest => ?_
  refine (Cpu.layout_alike one.cpu two.cpu rest).andThen fun sameCpu rest => ?_
  refine (Ppu.layout_alike _ _ rest).andThen fun sameChip rest => ?_
  refine (Cartridge.decode_alike _ _ rest).map fun sameCartridge => ?_
  refine ⟨⟨_, rfl⟩, fun revision draws => ?_⟩
  subst sameCpu
  have chip := sameChip draws
  have cartridge := sameCartridge revision
  simp only [withUnsaved, Option.map_some, chip, cartridge]
  exact congrArg (Machine.mk _) (around _ _)

/-- What no state says is a part of the guise. -/
theorem inGuise_withUnsaved (machine : Machine) (revision : ImageRevision) (draws : Bool)
    (guise : Guise) :
    (machine.withUnsaved revision draws).inGuise guise = machine.inGuise guise := by
  obtain ⟨cpu, ram, ppu, controller0, controller1, _ | cartridge, ticks, transfer⟩ := machine
  · rfl
  · rfl

namespace AlikeSaved

variable {left right : Machine} (alike : AlikeSaved left right)

include alike

/-- The one machine is the other one in its own guise. -/
theorem eq_inGuise : left = right.inGuise left.guise := by
  have worn := left.inGuise_guise
  have same := alike.same left.guise.label.revision left.guise.draws
  rw [← inGuise_withUnsaved, same, inGuise_withUnsaved] at worn
  exact worn.symm

/-- Both labels keep the path of the state. -/
theorem storedPath_eq : left.guise.label.storedPath = right.guise.label.storedPath := by
  have same := congrArg (fun machine : Machine => machine.bus.slot.map (·.label.storedPath))
    (alike.same .plain false)
  obtain ⟨_, ⟨_, _, _, _, first, _, _⟩⟩ := left
  obtain ⟨_, ⟨_, _, _, _, second, _, _⟩⟩ := right
  rcases first with _ | first <;> rcases second with _ | second
  · rfl
  · cases same
  · cases same
  · exact Option.some.inj same

/-- The machines save the same states after the same actions. -/
theorem encode_after (actions : List Action) :
    (left.after actions).encode = (right.after actions).encode := by
  have wears := after_wears right.inGuise_guise actions
  have shown := right.after_inGuise left.guise actions
  rw [← alike.eq_inGuise] at shown
  rw [shown]
  exact encode_inGuise wears alike.storedPath_eq

/-- The machines have the same processor after the same actions. -/
theorem cpu_after (actions : List Action) :
    (left.after actions).cpu = (right.after actions).cpu := by
  have shown := right.after_inGuise left.guise actions
  rw [← alike.eq_inGuise] at shown
  rw [shown]
  rfl

/-- The same actions read the same bytes. -/
theorem bytesRead_eq (actions : List Action) :
    left.bytesRead actions = right.bytesRead actions := by
  have read := right.bytesRead_inGuise left.guise actions
  rw [← alike.eq_inGuise] at read
  exact read

end AlikeSaved

/-- Whether a restore succeeds, and what it gives, depends on the bytes only. Over any two machines
the same bytes are refused with the same fault, or are restored to machines that save the same
state and are equal but for the revision of the image and the choice whether to draw. From then on
the same actions lead to the same processor, read the same bytes and save the same states. -/
theorem restore_dependsOnBytes (one two : Machine) (bytes : List UInt8) :
    (∃ fault, one.restore bytes = .error fault ∧ two.restore bytes = .error fault) ∨
      ∃ first second, one.restore bytes = .ok first ∧ two.restore bytes = .ok second ∧
        (∃ saved, first.encode = .ok saved ∧ second.encode = .ok saved) ∧
        (∀ revision draws,
          first.withUnsaved revision draws = second.withUnsaved revision draws) ∧
        ∀ actions : List Action,
          (first.after actions).cpu = (second.after actions).cpu ∧
          (first.after actions).encode = (second.after actions).encode ∧
          first.bytesRead actions = second.bytesRead actions := by
  have reads := decode_alike one two bytes
  rw [restore, restore]
  generalize one.decode bytes = left at reads ⊢
  generalize two.decode bytes = right at reads ⊢
  cases reads with
  | fault fault rest => exact .inl ⟨fault, rfl, rfl⟩
  | @value first second alike rest =>
    obtain ⟨cartridge, inserted⟩ := alike.inserted
    have stored := encode_of_cartridge inserted
    have again := alike.encode_after []
    refine .inr ⟨first, second, rfl, rfl, ⟨_, stored, again.symm.trans stored⟩, alike.same, ?_⟩
    intro actions
    exact ⟨alike.cpu_after actions, alike.encode_after actions, alike.bytesRead_eq actions⟩

end Machine

end Nes
