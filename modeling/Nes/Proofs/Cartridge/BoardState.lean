import Nes.Cartridge.Board
import Nes.Proofs.SaveState.Layout

/-!
# The layouts of boards are complete

A board that is stored is read back whole into any board of its kind (`Board.load_encode`), so a
state can be loaded over the registers of another cartridge. The memory of a board is stored
behind its length, and a register that a load cuts to the bits in use is read back where it has
no others (`Board.Storable`), which every board in use keeps.
-/
namespace Nes

open SaveState SaveState.Codec

/-- A mirroring is read back from its byte. -/
theorem Mirroring.codec_lawfulAt (mirroring : Mirroring) :
    Mirroring.codec.LawfulAt mirroring :=
  map_lawfulAt (byte_lawfulAt _) (by cases mirroring <;> rfl)

/-- The mirroring that a board chooses is read back, and so is that it chooses none. -/
theorem Mirroring.choiceCodec_lawfulAt (choice : Option Mirroring) :
    Mirroring.choiceCodec.LawfulAt choice :=
  map_lawfulAt (byte_lawfulAt _) (by
    cases choice with
    | none => rfl
    | some mirroring => cases mirroring <;> rfl)

/-- The two bank counts are read back as words. -/
theorem BankCounts.codec_lawfulAt (banks : BankCounts) : BankCounts.codec.LawfulAt banks :=
  map_lawfulAt (pair_lawfulAt (word_lawfulAt _) (word_lawfulAt _)) rfl

/-- The memory on a board is read back as a counted run of bytes. -/
theorem boardMemory_lawfulAt (ram : Memory 0x2000) : counted.LawfulAt ram.toList := by
  apply counted_lawfulAt
  rw [ram.length_toList]
  decide

/-- The fields of board 0 are all read back. -/
theorem Nrom.layout_lawfulAt (board : Nrom) : Nrom.layout.LawfulAt board := by
  simp only [Nrom.layout, Layout.lawfulAt_cons, Layout.lawfulAt_nil]
  exact ⟨BankCounts.codec_lawfulAt _, trivial⟩

/-- A stored board 0 takes the whole place of another one. -/
theorem Nrom.layout_copy (source target : Nrom) : Nrom.layout.copy source target = source := by
  simp only [Nrom.layout, Layout.copy_cons, Layout.copy_nil, StoredField.copy]

/-- The fields of board 2 are all read back. -/
theorem Uxrom.layout_lawfulAt (board : Uxrom) : Uxrom.layout.LawfulAt board := by
  simp only [Uxrom.layout, Layout.lawfulAt_cons, Layout.lawfulAt_nil]
  exact ⟨BankCounts.codec_lawfulAt _, byte_lawfulAt _, byte_lawfulAt _, trivial⟩

/-- A stored board 2 takes the whole place of another one. -/
theorem Uxrom.layout_copy (source target : Uxrom) :
    Uxrom.layout.copy source target = source := by
  simp only [Uxrom.layout, Layout.copy_cons, Layout.copy_nil, StoredField.copy]

/-- The fields of board 3 are all read back. -/
theorem Cnrom.layout_lawfulAt (board : Cnrom) : Cnrom.layout.LawfulAt board := by
  simp only [Cnrom.layout, Layout.lawfulAt_cons, Layout.lawfulAt_nil]
  exact ⟨BankCounts.codec_lawfulAt _, byte_lawfulAt _, trivial⟩

/-- A stored board 3 takes the whole place of another one. -/
theorem Cnrom.layout_copy (source target : Cnrom) :
    Cnrom.layout.copy source target = source := by
  simp only [Cnrom.layout, Layout.copy_cons, Layout.copy_nil, StoredField.copy]

/-- The fields of board 66 are all read back. -/
theorem Gxrom.layout_lawfulAt (board : Gxrom) : Gxrom.layout.LawfulAt board := by
  simp only [Gxrom.layout, Layout.lawfulAt_cons, Layout.lawfulAt_nil]
  exact ⟨BankCounts.codec_lawfulAt _, byte_lawfulAt _, byte_lawfulAt _, trivial⟩

/-- A stored board 66 takes the whole place of another one. -/
theorem Gxrom.layout_copy (source target : Gxrom) :
    Gxrom.layout.copy source target = source := by
  simp only [Gxrom.layout, Layout.copy_cons, Layout.copy_nil, StoredField.copy]

/-- The fields of board 1 are all read back, its memory and its choice of mirroring among them. -/
theorem Mmc1.layout_lawfulAt (board : Mmc1) : Mmc1.layout.LawfulAt board := by
  simp only [Mmc1.layout, Layout.lawfulAt_cons, Layout.lawfulAt_nil]
  exact ⟨BankCounts.codec_lawfulAt _, byte_lawfulAt _, byte_lawfulAt _, byte_lawfulAt _,
    byte_lawfulAt _, byte_lawfulAt _, byte_lawfulAt _, byte_lawfulAt _, byte_lawfulAt _,
    byte_lawfulAt _, Mirroring.choiceCodec_lawfulAt _, boardMemory_lawfulAt _, trivial⟩

/-- A stored board 1 takes the whole place of another one. -/
theorem Mmc1.layout_copy (source target : Mmc1) : Mmc1.layout.copy source target = source := by
  simp only [Mmc1.layout, Layout.copy_cons, Layout.copy_nil, StoredField.copy,
    Memory.ofListPadded_toList]

namespace Mmc3

/-- The register that takes the next bank number is one of the eight. -/
def TargetInRange (board : Mmc3) : Prop := board.target &&& 0x07 = board.target

/-- Every field of board 4 is read back. -/
theorem layout_lawfulAt (board : Mmc3) : layout.LawfulAt board := by
  simp only [layout, Layout.lawfulAt_append, Layout.lawfulAt_cons, Layout.lawfulAt_nil]
  refine ⟨⟨⟨⟨BankCounts.codec_lawfulAt _, byte_lawfulAt _, flag_lawfulAt _, flag_lawfulAt _,
    Mirroring.choiceCodec_lawfulAt _, memory_lawfulAt _, trivial⟩, ?_⟩, ?_⟩, flag_lawfulAt _,
    flag_lawfulAt _, word_lawfulAt _, word_lawfulAt _, boardMemory_lawfulAt _, trivial⟩
  · intro field member
    obtain ⟨window, rfl⟩ := List.mem_ofFn.1 member
    exact doubleWord_lawfulAt _
  · intro field member
    obtain ⟨window, rfl⟩ := List.mem_ofFn.1 member
    exact doubleWord_lawfulAt _

/-- Copying the eight character windows one by one copies all of them. -/
theorem copy_characterWindows (source target : Mmc3) :
    Layout.copy (List.ofFn characterWindowField) source target
      = { target with characterWindows := source.characterWindows } :=
  Layout.copy_elements Codec.doubleWord Mmc3.characterWindows
    (fun characterWindows (board : Mmc3) => { board with characterWindows })
    (fun _ _ => rfl) (fun _ _ _ => rfl) (fun _ => rfl) source target

/-- Copying the four program windows one by one copies all of them. -/
theorem copy_programWindows (source target : Mmc3) :
    Layout.copy (List.ofFn programWindowField) source target
      = { target with programWindows := source.programWindows } :=
  Layout.copy_elements Codec.doubleWord Mmc3.programWindows
    (fun programWindows (board : Mmc3) => { board with programWindows })
    (fun _ _ => rfl) (fun _ _ _ => rfl) (fun _ => rfl) source target

/-- Board 4 is its stored fields where the register to be written is one that exists. -/
theorem layout_copy {source : Mmc3} (inRange : source.TargetInRange) (target : Mmc3) :
    layout.copy source target = source := by
  have kept : source.target &&& 0x07 = source.target := inRange
  simp only [layout, Layout.copy_append, Layout.copy_cons, Layout.copy_nil, StoredField.copy,
    copy_characterWindows, copy_programWindows, Memory.ofListPadded_toList, kept]

end Mmc3

namespace Board

/-- A board whose state says all about its registers. -/
def Storable : Board → Prop
  | mmc3 board => board.TargetInRange
  | _ => True

/-- The registers of a complete layout are read back into a board of their kind. -/
theorem load_kind {σ : Type} {layout : Layout σ} {source target : σ}
    (lawful : layout.LawfulAt source) (complete : layout.copy source target = source)
    (kind : σ → Board) (suffix : List UInt8) :
    (layout.load target (layout.encode source ++ suffix)).map kind
      = ⟨kind source, none, suffix⟩ := by
  rw [Layout.load_encode lawful, complete]
  rfl

/-- A stored board is read back whole into any board of its kind. -/
theorem load_encode {source target : Board} (storable : source.Storable)
    (same : target.number = source.number) (suffix : List UInt8) :
    target.load (source.encode ++ suffix) = ⟨source, none, suffix⟩ := by
  cases source <;> cases target <;> try cases same
  case nrom.nrom source target =>
    exact load_kind (Nrom.layout_lawfulAt source) (Nrom.layout_copy source target) nrom suffix
  case mmc1.mmc1 source target =>
    exact load_kind (Mmc1.layout_lawfulAt source) (Mmc1.layout_copy source target) mmc1 suffix
  case uxrom.uxrom source target =>
    exact load_kind (Uxrom.layout_lawfulAt source) (Uxrom.layout_copy source target) uxrom suffix
  case cnrom.cnrom source target =>
    exact load_kind (Cnrom.layout_lawfulAt source) (Cnrom.layout_copy source target) cnrom suffix
  case mmc3.mmc3 source target =>
    exact load_kind (Mmc3.layout_lawfulAt source) (Mmc3.layout_copy storable target) mmc3 suffix
  case gxrom.gxrom source target =>
    exact load_kind (Gxrom.layout_lawfulAt source) (Gxrom.layout_copy source target) gxrom suffix

/-- A stored board is read back whole, and so no fault is noted. -/
theorem decode_encode {source target : Board} (storable : source.Storable)
    (same : target.number = source.number) (suffix : List UInt8) :
    target.decode (source.encode ++ suffix) = (.ok source, suffix) := by
  rw [decode, load_encode storable same]
  rfl

/-- The number of a board names a board of that number. -/
theorem exists_ofNumber? (board : Board) (banks : BankCounts) :
    ∃ fresh, ofNumber? board.number banks = some fresh ∧ fresh.number = board.number := by
  cases board <;> exact ⟨_, rfl, rfl⟩

/-- The board of a number has that number. -/
theorem number_of_ofNumber? {number : UInt8} {banks : BankCounts} {board : Board}
    (found : ofNumber? number banks = some board) : board.number = number := by
  unfold ofNumber? at found
  split at found
  case isTrue same => cases found; exact same.symm
  split at found
  case isTrue same => cases found; exact same.symm
  split at found
  case isTrue same => cases found; exact same.symm
  split at found
  case isTrue same => cases found; exact same.symm
  split at found
  case isTrue same => cases found; exact same.symm
  split at found
  case isTrue same => cases found; exact same.symm
  cases found

end Board

end Nes
