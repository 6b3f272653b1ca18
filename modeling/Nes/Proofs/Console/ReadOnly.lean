import Nes.Proofs.Cartridge.ImageParts
import Nes.Proofs.Cartridge.ReadOnly
import Nes.Proofs.Console.Reachable
import Nes.Proofs.Machine.SlotUse

/-!
# Consoles leave read-only memory alone

From the moment when a cartridge is put into a console, everything that the console does with it is
made of actions on cartridges, and a state that it saves brings the same cartridge back. So what of
the cartridge can not be written has the bytes of the image for good (`Console.rom_of_plays`).
-/
namespace Nes

open Cartridge (GivenBy KeepsRom headerMemory)

namespace Machine

/-- The cartridge in the slot has what could not be written of another one. -/
def HoldsRom (loaded : Cartridge) (machine : Machine) : Prop :=
  ∃ used, machine.bus.slot = some used ∧ KeepsRom loaded used

/-- After an insertion the cartridge is in the slot. -/
theorem holdsRom_insert (machine : Machine) (cartridge : Cartridge) :
    HoldsRom cartridge (machine.insert cartridge) :=
  ⟨cartridge.reset, machine.slot_insert cartridge,
    Cartridge.kept_keepsRom cartridge cartridge .reset (.refl cartridge)⟩

end Machine

namespace Console

/-- No use of a machine changes what can not be written of its cartridge. -/
theorem upheld_holdsRom (loaded : Cartridge) : Upheld (Machine.HoldsRom loaded) where
  act {machine} holds action := by
    obtain ⟨used, inside, keeps⟩ := holds
    exact (machine.slotUse_act action).holds (Cartridge.kept_keepsRom loaded) inside keeps
  told holds := holds
  inGuise {machine} holds guise := by
    obtain ⟨used, inside, keeps⟩ := holds
    refine ⟨used.withLabel guise.label, ?_, keeps.make, keeps.program, keeps.character⟩
    change machine.bus.slot.map (·.withLabel guise.label) = _
    rw [inside]
    rfl

/-- A console that a cartridge has been put into, and that has been used since. -/
inductive Plays (cartridge : Cartridge) : Console → Prop where
  /-- The cartridge is inserted. -/
  | insert {console : Console} (reachable : Reachable console) :
    Plays cartridge (console.insert cartridge)
  /-- The machine is reset. -/
  | reset {console : Console} (plays : Plays cartridge console) : Plays cartridge console.reset
  /-- One tick. -/
  | tick {console : Console} (plays : Plays cartridge console) : Plays cartridge console.tick
  /-- One frame, drawn or not. -/
  | runFrame {console : Console} (plays : Plays cartridge console) (draw : Bool) :
    Plays cartridge (console.runFrame draw)
  /-- Buttons are pressed, or the bus is read or written. -/
  | act {console : Console} (plays : Plays cartridge console) (action : Machine.Action) :
    Plays cartridge (console.mapMachine fun machine => (machine.act action).2)
  /-- A state that was saved since the insertion is restored, in this console or another one. -/
  | restore {console saved restored : Console} {bytes : List UInt8}
    (reachable : Reachable console) (savedPlays : Plays cartridge saved)
    (stored : saved.machine.encode = .ok bytes) (read : console.restore bytes = .ok restored) :
    Plays cartridge restored

namespace Plays

variable {cartridge : Cartridge} {console : Console}

/-- A console that plays an accepted cartridge is reachable. -/
theorem reachable (plays : Plays cartridge console) (accepted : cartridge.Accepted) :
    Reachable console := by
  induction plays with
  | insert reachable => exact reachable.insert accepted
  | reset plays ih => exact ih.reset
  | tick plays ih => exact ih.tick
  | runFrame plays draw ih => exact ih.runFrame draw
  | act plays action ih => exact ih.act action
  | restore reachable savedPlays stored read ih => exact reachable.restore ih stored read

/-- The cartridge that a console plays is in its slot with all that can not be written. -/
theorem holdsRom (plays : Plays cartridge console) (accepted : cartridge.Accepted) :
    console.machine.HoldsRom cartridge := by
  induction plays with
  | @insert console reachable =>
    rw [Console.insert, machine_mapMachine]
    exact Machine.holdsRom_insert console.machine cartridge
  | reset plays ih => exact (upheld_holdsRom cartridge).act ih .reset
  | tick plays ih => exact (upheld_holdsRom cartridge).tick ih
  | runFrame plays draw ih => exact (upheld_holdsRom cartridge).runFrame ih draw
  | act plays action ih =>
    rw [machine_mapMachine]
    exact (upheld_holdsRom cartridge).act ih action
  | restore reachable savedPlays stored read ih =>
    exact (upheld_holdsRom cartridge).restore (savedPlays.reachable accepted) ih stored read

end Plays

/-- However long a console has played the cartridge of an image, program memory has the bytes of
the image on every supported board with registers, and character memory has them on every board if
the header declares any. -/
theorem rom_of_plays {image : ByteArray} {cartridge : Cartridge}
    (given : GivenBy image cartridge) {console : Console} (plays : console.Plays cartridge) :
    let header := ImageHeader.ofMemory (headerMemory image)
    let programEnd := header.programStart + header.banks.program.toNat * 0x4000
    ∃ used, console.machine.bus.slot = some used ∧
      (header.boardNumber ∈ [1, 2, 3, 4, 66] →
        used.program = image.extract header.programStart programEnd) ∧
      (header.banks.character ≠ 0 →
        used.character
          = image.extract programEnd (programEnd + header.banks.character.toNat * 0x2000)) := by
  intro header programEnd
  obtain ⟨used, inside, keeps⟩ := plays.holdsRom given.accepted
  obtain ⟨banks, number, program, character⟩ := given.contents
  refine ⟨used, inside, fun registers => ?_, fun some => ?_⟩
  · have listed : ∀ number ∈ ([1, 2, 3, 4, 66] : List UInt8),
        number ≠ 0 ∧ number.toNat ∈ ImageHeader.supportedBoards := by
      simp only [List.forall_mem_cons, List.not_mem_nil, false_implies, implies_true, and_true]
      decide
    obtain ⟨nonzero, supported⟩ := listed _ registers
    obtain ⟨board, found⟩ := ImageHeader.ofNumber?_of_supported header.banks supported
    rw [keeps.program (by rw [number board found]; exact nonzero), program]
    rfl
  · rw [keeps.character (by rw [banks]; exact some), character some]
    rfl

/-- Parts with a bank of each memory, for board 66. -/
def romParts : ImageParts where
  header := .ofList [0x4E, 0x45, 0x53, 0x1A, 1, 1, 0x20, 0x40, 0, 0, 0, 0, 0, 0, 0, 0] rfl
  trainer := []
  program := List.replicate 16384 0xEA
  character := List.replicate 8192 0x3C
  tail := []

/-- Neither a write where the program lies nor one to video memory, nor a reset, reaches the two
memories. -/
theorem rom_of_plays_romParts :
    ∃ cartridge, GivenBy romParts.image cartridge ∧
      ∀ console, Reachable console →
        let bankSwitched := (console.insert cartridge).mapMachine fun machine =>
          (machine.act (.write 0x8000 0x33)).2
        let written := bankSwitched.mapMachine fun machine => (machine.act (.write 0x2007 0x55)).2
        ∃ used, written.reset.machine.bus.slot = some used ∧
          used.program = romParts.image.extract 16 16400 ∧
          used.character = romParts.image.extract 16400 24592 := by
  have measured : romParts.Measured (ImageHeader.programCount romParts.header)
      (ImageHeader.characterCount romParts.header) :=
    ⟨by decide, rfl, List.length_replicate, List.length_replicate⟩
  obtain ⟨cartridge, read, -⟩ := ImageParts.ofImage_image measured
  rw [Cartridge.answerFor, if_pos (by decide)] at read
  refine ⟨cartridge, .image read, fun console reachable => ?_⟩
  have inserted : Plays cartridge (console.insert cartridge) := .insert reachable
  have plays := ((inserted.act (.write 0x8000 0x33)).act (.write 0x2007 0x55)).reset
  obtain ⟨used, inside, program, character⟩ := rom_of_plays (.image read) plays
  rw [ImageParts.headerMemory_image] at program character
  exact ⟨used, inside, program (by decide), character (by decide)⟩

end Console

end Nes
