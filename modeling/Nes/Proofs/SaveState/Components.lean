import Nes.Bus
import Nes.Cpu.Basic
import Nes.Proofs.SaveState.Layout

/-!
# The layouts of processor, bus and picture chip are complete

For each component two facts make its layout complete. Every field is read back (`lawfulAt`), and
copying all fields from one component to another gives the first one (`copy_eq`), apart from what
the state of the component leaves out on purpose: the bus is stored without the picture chip and
the cartridge, and the picture chip without the choice whether to draw.
-/
namespace Nes

open SaveState SaveState.Codec

/-- The status flags of the processor are read back from their byte. -/
theorem Cpu.statusCodec_lawfulAt (status : Cpu.Status) : Cpu.statusCodec.LawfulAt status :=
  map_lawfulAt (byte_lawfulAt _) (Cpu.Status.ofByte_toByte status)

/-- The fields of the processor are all read back. -/
theorem Cpu.layout_lawfulAt (cpu : Cpu) : Cpu.layout.LawfulAt cpu := by
  simp only [Cpu.layout, Layout.lawfulAt_cons, Layout.lawfulAt_nil]
  exact ⟨byte_lawfulAt _, byte_lawfulAt _, byte_lawfulAt _, byte_lawfulAt _, word_lawfulAt _,
    Cpu.statusCodec_lawfulAt _, byte_lawfulAt _, word_lawfulAt _, word_lawfulAt _,
    byte_lawfulAt _, byte_lawfulAt _, trivial⟩

/-- A stored processor takes the whole place of another one. -/
theorem Cpu.layout_copy (source target : Cpu) : Cpu.layout.copy source target = source := by
  simp only [Cpu.layout, Layout.copy_cons, Layout.copy_nil, StoredField.copy, Cpu.withRegisters]

/-- The fields of the transfer engine are all read back. -/
theorem OamTransfer.layout_lawfulAt (transfer : OamTransfer) :
    OamTransfer.layout.LawfulAt transfer := by
  simp only [OamTransfer.layout, Layout.lawfulAt_cons, Layout.lawfulAt_nil]
  exact ⟨byte_lawfulAt _, byte_lawfulAt _, byte_lawfulAt _, flag_lawfulAt _, flag_lawfulAt _,
    trivial⟩

/-- The two controllers are read back from their four bytes. -/
theorem Bus.controllersCodec_lawfulAt (controllers : Controller × Controller) :
    Bus.controllersCodec.LawfulAt controllers :=
  map_lawfulAt (vector_lawfulAt _ fun value _ => byte_lawfulAt value) rfl

/-- The fields of the bus are all read back. -/
theorem Bus.layout_lawfulAt (bus : Bus) : Bus.layout.LawfulAt bus := by
  simp only [Bus.layout, Layout.lawfulAt_append, Layout.lawfulAt_cons, Layout.lawfulAt_nil]
  exact ⟨⟨memory_lawfulAt _, Bus.controllersCodec_lawfulAt _, doubleWord_lawfulAt _, trivial⟩,
    Layout.lawfulAt_focus _ (OamTransfer.layout_lawfulAt _)⟩

/-- A bus is its stored fields, the picture chip and the cartridge slot. -/
theorem Bus.layout_copy (source target : Bus) :
    Bus.layout.copy source target = { source with ppu := target.ppu, slot := target.slot } := by
  simp only [Bus.layout, OamTransfer.layout, Layout.focus, StoredField.focus, List.map_cons,
    List.map_nil, List.cons_append, List.nil_append, Layout.copy_cons, Layout.copy_nil,
    StoredField.copy]

namespace Ppu

/-- The low bits of the status register leave room for its flags in one byte. -/
def Status.FitsByte (status : Status) : Prop := status.low < 0x20

/-- A status that fits its byte is read back from it. -/
theorem Status.ofByte_toByte {status : Status} (fits : status.FitsByte) :
    Status.ofByte status.toByte = status := by
  have listed : ∀ (low : Fin 32) (vblank zeroHit overflow : Bool),
      Status.ofByte (Status.toByte ⟨vblank, zeroHit, overflow, UInt8.ofNat low⟩)
        = ⟨vblank, zeroHit, overflow, UInt8.ofNat low⟩ := by
    decide +kernel
  obtain ⟨vblank, zeroHit, overflow, low⟩ := status
  have small : low.toNat < 32 := UInt8.lt_iff_toNat_lt.1 fits
  have found := listed ⟨low.toNat, small⟩ vblank zeroHit overflow
  simpa using found

/-- The background pipeline is read back. -/
theorem Background.codec_lawfulAt (background : Background) :
    Background.codec.LawfulAt background :=
  map_lawfulAt (pair_lawfulAt (memory_lawfulAt _) (pair_lawfulAt (word_lawfulAt _)
    (pair_lawfulAt (word_lawfulAt _) (pair_lawfulAt (word_lawfulAt _) (word_lawfulAt _))))) rfl

/-- An entry of sprite memory is read back from its four bytes. -/
theorem OamEntry.codec_lawfulAt (entry : OamEntry) : OamEntry.codec.LawfulAt entry :=
  map_lawfulAt (memory_lawfulAt _) rfl

/-- The fields of the picture chip are all read back if its status fits a byte. -/
theorem layout_lawfulAt {ppu : Ppu} (fits : ppu.status.FitsByte) : layout.LawfulAt ppu := by
  simp only [layout, Layout.lawfulAt_cons, Layout.lawfulAt_nil]
  exact ⟨flag_lawfulAt _, flag_lawfulAt _, memory_lawfulAt _, memory_lawfulAt _,
    memory_lawfulAt _, memory_lawfulAt _, memory_lawfulAt _,
    map_lawfulAt (byte_lawfulAt _) (Status.ofByte_toByte fits), byte_lawfulAt _, byte_lawfulAt _,
    word_lawfulAt _, word_lawfulAt _, byte_lawfulAt _, flag_lawfulAt _, byte_lawfulAt _,
    signedWord_lawfulAt _, signedWord_lawfulAt _, flag_lawfulAt _, Background.codec_lawfulAt _,
    memory_lawfulAt _, byte_lawfulAt _,
    vector_lawfulAt _ fun entry _ => OamEntry.codec_lawfulAt entry, byte_lawfulAt _,
    memory_lawfulAt _, memory_lawfulAt _, flag_lawfulAt _, flag_lawfulAt _, trivial⟩

/-- A picture chip is its stored fields and the choice whether to draw. -/
theorem layout_copy (source target : Ppu) :
    layout.copy source target = { source with drawsFrame := target.drawsFrame } := by
  simp only [layout, Layout.copy_cons, Layout.copy_nil, StoredField.copy]

end Ppu

end Nes
