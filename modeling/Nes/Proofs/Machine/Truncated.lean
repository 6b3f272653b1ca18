import Nes.Machine
import Nes.Proofs.SaveState.Prefix

/-!
# Truncated states

No component reads past what it needs, and none takes a part of its bytes for the whole: the
readers of all components are stable (`Reader.Stable`), that of the cartridge although lengths read
earlier and the board number steer it, and so is the reader of the machine.
-/
namespace Nes

open SaveState SaveState.Codec

/-- The processor is read stably. -/
theorem Cpu.layout_stable : Cpu.layout.Stable := by
  simp only [Cpu.layout, Layout.stable_cons, Layout.stable_nil]
  exact ⟨byte_stable, byte_stable, byte_stable, byte_stable, word_stable,
    map_stable byte_stable _ _, byte_stable, word_stable, word_stable, byte_stable, byte_stable,
    trivial⟩

/-- The transfer engine is read stably. -/
theorem OamTransfer.layout_stable : OamTransfer.layout.Stable := by
  simp only [OamTransfer.layout, Layout.stable_cons, Layout.stable_nil]
  exact ⟨byte_stable, byte_stable, byte_stable, flag_stable, flag_stable, trivial⟩

/-- The bus is read stably, its memory and its controllers included. -/
theorem Bus.layout_stable : Bus.layout.Stable := by
  simp only [Bus.layout, Layout.stable_append, Layout.stable_cons, Layout.stable_nil]
  exact ⟨⟨memory_stable _, map_stable (vector_stable byte_stable 4) _ _, doubleWord_stable,
    trivial⟩, Layout.stable_focus OamTransfer.layout_stable _ _⟩

namespace Ppu

/-- The background pipeline is read stably. -/
theorem Background.codec_stable : Background.codec.Stable :=
  map_stable (pair_stable (memory_stable 4) (pair_stable word_stable (pair_stable word_stable
    (pair_stable word_stable word_stable)))) _ _

/-- An entry of sprite memory is read stably. -/
theorem OamEntry.codec_stable : OamEntry.codec.Stable := map_stable (memory_stable 4) _ _

/-- The picture chip is read stably. -/
theorem layout_stable : Ppu.layout.Stable := by
  simp only [layout, Layout.stable_cons, Layout.stable_nil]
  exact ⟨flag_stable, flag_stable, memory_stable _, memory_stable _, memory_stable _,
    memory_stable _, memory_stable _, map_stable byte_stable _ _, byte_stable, byte_stable,
    word_stable, word_stable, byte_stable, flag_stable, byte_stable, signedWord_stable,
    signedWord_stable, flag_stable, Background.codec_stable, memory_stable _, byte_stable,
    vector_stable OamEntry.codec_stable 8, byte_stable, memory_stable _, memory_stable _,
    flag_stable, flag_stable, trivial⟩

end Ppu

/-- A mirroring is read stably. -/
theorem Mirroring.codec_stable : Mirroring.codec.Stable := map_stable byte_stable _ _

/-- The choice of a mirroring is read stably. -/
theorem Mirroring.choiceCodec_stable : Mirroring.choiceCodec.Stable := map_stable byte_stable _ _

/-- The bank counts are read stably. -/
theorem BankCounts.codec_stable : BankCounts.codec.Stable :=
  map_stable (pair_stable word_stable word_stable) _ _

/-- Board 0 is read stably. -/
theorem Nrom.layout_stable : Nrom.layout.Stable := by
  simp only [Nrom.layout, Layout.stable_cons, Layout.stable_nil]
  exact ⟨BankCounts.codec_stable, trivial⟩

/-- Board 2 is read stably. -/
theorem Uxrom.layout_stable : Uxrom.layout.Stable := by
  simp only [Uxrom.layout, Layout.stable_cons, Layout.stable_nil]
  exact ⟨BankCounts.codec_stable, byte_stable, byte_stable, trivial⟩

/-- Board 3 is read stably. -/
theorem Cnrom.layout_stable : Cnrom.layout.Stable := by
  simp only [Cnrom.layout, Layout.stable_cons, Layout.stable_nil]
  exact ⟨BankCounts.codec_stable, byte_stable, trivial⟩

/-- Board 66 is read stably. -/
theorem Gxrom.layout_stable : Gxrom.layout.Stable := by
  simp only [Gxrom.layout, Layout.stable_cons, Layout.stable_nil]
  exact ⟨BankCounts.codec_stable, byte_stable, byte_stable, trivial⟩

/-- Board 1 is read stably. -/
theorem Mmc1.layout_stable : Mmc1.layout.Stable := by
  simp only [Mmc1.layout, Layout.stable_cons, Layout.stable_nil]
  exact ⟨BankCounts.codec_stable, byte_stable, byte_stable, byte_stable, byte_stable, byte_stable,
    byte_stable, byte_stable, byte_stable, byte_stable, Mirroring.choiceCodec_stable,
    counted_stable, trivial⟩

/-- Board 4 is read stably. -/
theorem Mmc3.layout_stable : Mmc3.layout.Stable := by
  simp only [Mmc3.layout, Layout.stable_append, Layout.stable_cons, Layout.stable_nil]
  exact ⟨⟨⟨⟨BankCounts.codec_stable, byte_stable, flag_stable, flag_stable,
    Mirroring.choiceCodec_stable, memory_stable 8, trivial⟩,
    Layout.stable_elements doubleWord_stable _ _⟩, Layout.stable_elements doubleWord_stable _ _⟩,
    flag_stable, flag_stable, word_stable, word_stable, counted_stable, trivial⟩

/-- The registers of a stable layout are read stably into a board of their kind. -/
theorem Board.load_stable {σ : Type} {layout : Layout σ} (stable : layout.Stable) (target : σ)
    (kind : σ → Board) :
    Reader.Stable fun bytes => ((layout.load target bytes).map kind).whole := by
  have changed := (Layout.decode_stable stable target).map kind
  intro bytes
  simp only [Layout.whole_map_load]
  exact changed bytes

/-- A board is read stably over any other one, although its length comes from the bytes. -/
theorem Board.decode_stable (board : Board) : Reader.Stable board.decode := by
  cases board
  case nrom board => exact load_stable Nrom.layout_stable board nrom
  case mmc1 board => exact load_stable Mmc1.layout_stable board mmc1
  case uxrom board => exact load_stable Uxrom.layout_stable board uxrom
  case cnrom board => exact load_stable Cnrom.layout_stable board cnrom
  case mmc3 board => exact load_stable Mmc3.layout_stable board mmc3
  case gxrom board => exact load_stable Gxrom.layout_stable board gxrom

namespace Cartridge

/-- The fields in front of a stored board are read stably. -/
theorem StoredHead.layout_stable : StoredHead.layout.Stable := by
  simp only [StoredHead.layout, Layout.stable_cons, Layout.stable_nil]
  exact ⟨counted_stable, Mirroring.codec_stable, byte_stable, BankCounts.codec_stable,
    countedArray_stable, countedArray_stable, trivial⟩

/-- A cartridge is read stably: the head tells which board follows, and whether there is one. -/
theorem decode_stable (cartridge : Cartridge) : Reader.Stable cartridge.decode := by
  refine (Layout.decode_stable StoredHead.layout_stable .blank).andThen fun head => ?_
  rcases boardFor? cartridge.board head with _ | board
  · exact Reader.Stable.refuse _
  · exact board.decode_stable.map _

end Cartridge

/-- A machine is read stably. -/
theorem Machine.decode_stable (machine : Machine) : Reader.Stable machine.decode := by
  refine (Layout.decode_stable Bus.layout_stable machine.bus).andThen fun bus => ?_
  refine (Layout.decode_stable Cpu.layout_stable machine.cpu).andThen fun cpu => ?_
  refine (Layout.decode_stable Ppu.layout_stable bus.ppu).andThen fun ppu => ?_
  exact (bus.slot.getD .blank).decode_stable.map _

end Nes
