import Nes.Proofs.Ppu.ScrollProtocol
import Nes.Proofs.Ppu.VideoHistory

/-!
# Streams through the data register

The processor moves blocks of bytes to and from video memory through one register: it sets the
address once, and every access goes on by one step. A write stores at once, a read answers with the
byte that the read before it found. What carries the proofs is that an access of the nametables is
an access of one cell (`writeData_of_nametables`, `readData_of_nametables`). Of a stream of writes
every cell keeps its byte if no two places of the stream share a cell, and a stream of reads tells
the cells one read late (`answers_reads`).
-/
namespace Nes.Ppu

section

variable {κ : Type} [CartridgeSide κ]

/-- The bytes that the reads among some accesses return. -/
def answers (state : Ppu × κ) : List Access → List UInt8
  | [] => []
  | .read address :: later =>
    (state.1.readRegister state.2 address).1 :: answers (access state (.read address)) later
  | .write address value :: later => answers (access state (.write address value)) later

/-- The accesses that set the address: a read of the status, so that the high half comes first, and
the two halves. -/
def aim (start : UInt16) : List Access :=
  [.read 0x2002, .write 0x2006 (highByte start), .write 0x2006 (lowByte start)]

/-- A chip with another address set: what steers accesses and what they reach is as before. -/
structure Aimed (before after : Ppu) (start : UInt16) : Prop where
  /-- The address is set. -/
  here : after.scroll.raw = start
  /-- The step is as before. -/
  control : after.control = before.control
  /-- So is the byte found by the latest read. -/
  readBuffer : after.readBuffer = before.readBuffer
  /-- So is sprite memory. -/
  oam : after.oam = before.oam
  /-- So is video memory. -/
  contents : ∀ cell, after.contents cell = before.contents cell

/-- Every address of fourteen bits can be set. -/
theorem foldl_aim (ppu : Ppu) (slot : κ) {start : UInt16} (short : start.toNat < 0x4000) :
    ∃ aimed, (aim start).foldl access (ppu, slot) = (aimed, slot) ∧ Aimed ppu aimed start := by
  have cut : highByte start &&& 0x3F = highByte start := by
    have low : (highByte start &&& 0x3F).toNat = (highByte start).toNat % 2 ^ 6 := by
      rw [UInt8.toNat_and]
      exact Nat.and_two_pow_sub_one_eq_mod _ 6
    apply UInt8.toNat_inj.1
    rw [low, toNat_highByte]
    omega
  have whole (other : UInt8) :
      wordOf (lowByte start) (highByte (wordOf other (highByte start &&& 0x3F))) = start := by
    rw [highByte_wordOf, cut, wordOf_lowByte_highByte]
  have halves : (ppu.readStatus.2.writeAddress (highByte start)).writeAddress (lowByte start)
      = { ppu with
          status := { ppu.status with vblank := false }
          secondWrite := false, nextScroll := ⟨start⟩, scroll := ⟨start⟩ } := by
    simp only [readStatus, writeAddress, Bool.false_eq_true, if_false, if_true, whole]
  refine ⟨_, congrArg (·, slot) halves, rfl, rfl, rfl, rfl, fun cell => ?_⟩
  cases cell <;> rfl

end

/-- The places of the nametables and of their repetition. -/
def InNametables (place : Nat) : Prop := 0x2000 ≤ place ∧ place ≤ 0x3EFF

instance (place : Nat) : Decidable (InNametables place) := inferInstanceAs (Decidable (_ ∧ _))

section Cells

variable {ppu : Ppu} (slot : Option Cartridge) {place : Nat}
  (here : ppu.scroll.raw.toNat = place)

include here

/-- A read of the nametables answers with the byte found before, and finds the cell. -/
theorem readData_of_nametables (inside : InNametables place) :
    ppu.readData slot
      = (ppu.readBuffer,
        { ppu with
          readBuffer := ppu.contents (cellOf (CartridgeSide.mirroring slot) (.ofNat place))
        }.advanceAddress) := by
  obtain ⟨above, below⟩ := inside
  have small : place % 0x4000 = place := Nat.mod_eq_of_lt (by omega)
  have cut : ppu.scroll.raw &&& 0x3FFF = .ofNat place := by
    apply UInt16.toNat_inj.1
    rw [toNat_cut, here, small, UInt16.toNat_ofNat_of_lt' (by simp only [UInt16.size]; omega)]
  have number : (UInt16.ofNat place).toNat = place :=
    UInt16.toNat_ofNat_of_lt' (by simp only [UInt16.size]; omega)
  have region : regionOf (.ofNat place) = .nametables := by
    simp only [regionOf, number, small]
    rw [if_neg (by omega), if_pos (by omega)]
  have late : UInt16.ofNat place < 0x3F00 := by
    rw [UInt16.lt_iff_toNat_lt, number]
    exact Nat.lt_of_le_of_lt below (by decide)
  have found : ppu.readVideo slot (.ofNat place)
      = ppu.contents (cellOf (CartridgeSide.mirroring slot) (.ofNat place)) := by
    rw [readVideo_of_above ppu slot (by rw [number, small]; exact above), region]
    exact UInt8.and_neg_one
  simp only [readData, cut, found]
  rw [if_pos late]

/-- A write of the nametables stores into the cell. -/
theorem writeData_of_nametables (inside : InNametables place) (value : UInt8) :
    ppu.writeData slot value
      = ((ppu.put value (cellOf (CartridgeSide.mirroring slot) (.ofNat place))).advanceAddress,
        slot) := by
  have address : ppu.scroll.raw = .ofNat place := by rw [← here, UInt16.ofNat_toNat]
  have unclaimed : ¬ppu.scroll.raw &&& 0x3FFF < 0x2000 := by
    rw [cut_lt_iff, here]
    obtain ⟨above, below⟩ := inside
    change ¬place % 0x4000 < 0x2000
    omega
  have refused := CartridgeSide.writeCharacter_of_above slot unclaimed value
  rw [writeData, writeVideo_eq, refused, address]
  rfl

omit here in
/-- A read of the palettes answers at once, with the bits that are shown. -/
theorem readData_of_palettes (above : 0x3F00 ≤ ppu.scroll.raw.toNat % 0x4000) :
    (ppu.readData slot).1
      = ppu.contents (.palette (paletteEntry (.ofNat _ ppu.scroll.raw.toNat)))
          &&& if ppu.mask.greyscale then 0x30 else 0x3F := by
  have late : ¬ppu.scroll.raw &&& 0x3FFF < 0x3F00 := by
    rw [cut_lt_iff]
    exact Nat.not_lt.2 above
  have cut := toNat_cut ppu.scroll.raw
  have region : regionOf (ppu.scroll.raw &&& 0x3FFF) = .palettes := by
    simp only [regionOf, cut, Nat.mod_mod]
    rw [if_neg (by omega), if_neg (by omega)]
  have entry : Fin.ofNat 32 (ppu.scroll.raw.toNat % 0x4000 % 0x4000)
      = .ofNat 32 ppu.scroll.raw.toNat := by
    apply Fin.ext
    simp only [Fin.val_ofNat]
    omega
  have found : ppu.readVideo slot (ppu.scroll.raw &&& 0x3FFF) = _ :=
    readVideo_of_above ppu slot (by rw [cut, Nat.mod_mod]; omega)
  simp only [cellOf, region, cut, entry] at found
  rw [readData]
  dsimp only
  rw [if_neg late, found]
  rfl

end Cells

section Streams

/-- The cells of a stream from a place on, some places apart. -/
def streamCells (slot : Option Cartridge) (start count step : Nat) : List Cell :=
  (List.range' start count step).map fun place =>
    cellOf (CartridgeSide.mirroring slot) (.ofNat place)

/-- A stream begins with the cell of its first place and goes on one step behind it. -/
theorem streamCells_succ (slot : Option Cartridge) (start count step : Nat) :
    streamCells slot start (count + 1) step
      = cellOf (CartridgeSide.mirroring slot) (.ofNat start)
        :: streamCells slot (start + step) count step := rfl

/-- What a stream of writes makes of a chip: the cells have the bytes, in order, and all else is as
it was but for the address. -/
structure Stored (before after : Ppu) (cells : List Cell) (bytes : List UInt8) : Prop where
  /-- Only memory and the address change. -/
  registers : ∃ nametables patterns palette scroll,
    after = { before with nametables, patterns, palette, scroll }
  /-- The cells have the bytes. -/
  stored : cells.map after.contents = bytes
  /-- The other cells have their bytes still. -/
  others : ∀ cell, cell ∉ cells → after.contents cell = before.contents cell

/-- Going on to the next address changes no cell. -/
theorem contents_advanceAddress (ppu : Ppu) (cell : Cell) :
    ppu.advanceAddress.contents cell = ppu.contents cell := by
  cases cell <;> rfl

/-- Nothing has been stored before the first write. -/
theorem Stored.nil (ppu : Ppu) : Stored ppu ppu [] [] :=
  ⟨⟨_, _, _, _, rfl⟩, rfl, fun _ _ => rfl⟩

/-- One write more before a stream, into a cell that the stream does not use. -/
theorem Stored.cons {before after : Ppu} {cells : List Cell} {bytes : List UInt8} {cell : Cell}
    {byte : UInt8} (rest : Stored (before.put byte cell).advanceAddress after cells bytes)
    (apart : cell ∉ cells) : Stored before after (cell :: cells) (byte :: bytes) where
  registers := by
    obtain ⟨nametables, patterns, palette, scroll, same⟩ := rest.registers
    refine ⟨nametables, patterns, palette, scroll, same.trans ?_⟩
    cases cell <;> rfl
  stored := by
    have kept := rest.others cell apart
    rw [contents_advanceAddress, contents_put_self] at kept
    rw [List.map_cons, kept, rest.stored]
  others other outside := by
    have here : cell ≠ other := Ne.symm (List.ne_of_not_mem_cons outside)
    rw [rest.others other (List.not_mem_of_not_mem_cons outside), contents_advanceAddress,
      contents_put_of_ne _ _ here]

variable {ppu : Ppu} {place step : Nat}

/-- Within the nametables the address goes on by the step. -/
theorem toNat_advanceAddress (here : ppu.scroll.raw.toNat = place)
    (steady : ppu.control.increment.toNat = step) (inside : InNametables place) :
    ppu.advanceAddress.scroll.raw.toNat = place + step := by
  have small : ppu.control.increment.toNat ≤ 32 := by
    rw [toNat_increment]
    split <;> decide
  have below := inside.2
  change (ppu.scroll.advance ppu.control.increment).raw.toNat = _
  rw [toNat_advance, here, steady]
  exact Nat.mod_eq_of_lt (by omega)

variable (slot : Option Cartridge)

/-- A stream of writes stores its bytes, if no two of its places share a cell. -/
theorem foldl_writes (bytes : List UInt8) (here : ppu.scroll.raw.toNat = place)
    (steady : ppu.control.increment.toNat = step)
    (inside : ∀ reached ∈ List.range' place bytes.length step, InNametables reached)
    (apart : (streamCells slot place bytes.length step).Nodup) :
    ∃ after, (bytes.map (Access.write 0x2007)).foldl access (ppu, slot) = (after, slot) ∧
      Stored ppu after (streamCells slot place bytes.length step) bytes := by
  induction bytes generalizing ppu place with
  | nil => exact ⟨ppu, rfl, .nil ppu⟩
  | cons byte bytes ih =>
    rw [List.length_cons, List.range'_succ] at inside
    obtain ⟨first, later⟩ := List.forall_mem_cons.1 inside
    have written : access (ppu, slot) (.write 0x2007 byte) = _ :=
      writeData_of_nametables slot here first byte
    generalize into : cellOf (CartridgeSide.mirroring slot) (.ofNat place) = cell at written
    have control : (ppu.put byte cell).control = ppu.control := by cases cell <;> rfl
    have scroll : (ppu.put byte cell).scroll = ppu.scroll := by cases cell <;> rfl
    have next := toNat_advanceAddress (scroll ▸ here) (control ▸ steady) first
    rw [List.length_cons, streamCells_succ, into] at apart ⊢
    obtain ⟨other, rest⟩ := List.nodup_cons.1 apart
    obtain ⟨after, run, stored⟩ := ih next (control ▸ steady) later rest
    refine ⟨after, ?_, stored.cons other⟩
    rw [List.map_cons, List.foldl_cons, written]
    exact run

/-- A stream of reads tells the byte found before it and then the cells, all but the last one. -/
theorem answers_reads (count : Nat) (here : ppu.scroll.raw.toNat = place)
    (steady : ppu.control.increment.toNat = step)
    (inside : ∀ reached ∈ List.range' place (count + 1) step, InNametables reached) :
    answers (ppu, slot) (List.replicate (count + 1) (.read 0x2007))
      = ppu.readBuffer :: (streamCells slot place count step).map ppu.contents := by
  induction count generalizing ppu place with
  | zero =>
    have told := readData_of_nametables slot here (inside place List.mem_cons_self)
    change [(ppu.readData slot).1] = _
    rw [told]
    rfl
  | succ count ih =>
    rw [List.range'_succ] at inside
    obtain ⟨first, later⟩ := List.forall_mem_cons.1 inside
    have told := readData_of_nametables slot here first
    generalize into : cellOf (CartridgeSide.mirroring slot) (.ofNat place) = cell at told
    let found : Ppu := { ppu with readBuffer := ppu.contents cell }
    have next : found.advanceAddress.scroll.raw.toNat = place + step :=
      toNat_advanceAddress here steady first
    have rest := ih next steady later
    have kept : found.advanceAddress.contents = ppu.contents := by
      funext other
      cases other <;> rfl
    rw [kept] at rest
    rw [List.replicate_succ, answers, streamCells_succ, into]
    change (ppu.readData slot).1 :: answers ((ppu.readData slot).2, slot) _ = _
    rw [told, rest]
    rfl

/-- A stream of reads changes the address and the read buffer only. -/
theorem foldl_reads (count : Nat) (ppu : Ppu) :
    ∃ scroll readBuffer,
      (List.replicate count (Access.read 0x2007)).foldl access (ppu, slot)
        = ({ ppu with scroll, readBuffer }, slot) := by
  induction count generalizing ppu with
  | zero => exact ⟨_, _, rfl⟩
  | succ count ih =>
    obtain ⟨scroll, readBuffer, same⟩ := ih (ppu.readData slot).2
    exact ⟨scroll, readBuffer, same⟩

/-- Bytes written from an address on are read back from the same address, after the byte that was
in the read buffer, if the stream stays in the nametables and no two of its places share a cell. All
other memory stays as it was. Every access goes on by one place or by one line of tiles. Of the
palettes every read answers at once, with the bits that are shown. -/
theorem data_port_round_trip (ppu : Ppu) :
    (∀ (start : UInt16) (bytes : List UInt8),
      let step := if ppu.control.stepsDown then 32 else 1
      let cells := streamCells slot start.toNat bytes.length step
      (∀ place ∈ List.range' start.toNat (bytes.length + 1) step, InNametables place) →
      cells.Nodup →
      let writes := aim start ++ bytes.map (Access.write 0x2007)
      let aimed := (aim start).foldl access (writes.foldl access (ppu, slot))
      let reads := List.replicate (bytes.length + 1) (Access.read 0x2007)
      let now := reads.foldl access aimed
      answers aimed reads = ppu.readBuffer :: bytes ∧ now.1.oam = ppu.oam ∧ now.2 = slot ∧
        ∀ cell, cell ∉ cells → now.1.contents cell = ppu.contents cell) ∧
    (∀ request, request.register = 7 →
      (access (ppu, slot) request).1.scroll.raw.toNat
        = (ppu.scroll.raw.toNat + if ppu.control.stepsDown then 32 else 1) % 2 ^ 15) ∧
    (0x3F00 ≤ ppu.scroll.raw.toNat % 0x4000 →
      (ppu.readRegister slot 0x2007).1
        = ppu.contents (.palette (paletteEntry (.ofNat _ ppu.scroll.raw.toNat)))
            &&& if ppu.mask.greyscale then 0x30 else 0x3F) := by
  refine ⟨fun start bytes => ?_, fun request data => ?_, readData_of_palettes slot⟩
  · rw [← toNat_increment]
    intro step cells inside apart writes aimed reads now
    have short : start.toNat < 0x4000 := by
      have first := inside start.toNat List.mem_cons_self
      exact Nat.lt_of_le_of_lt first.2 (by decide)
    obtain ⟨before, aimedBefore, toWrite⟩ := foldl_aim ppu slot short
    have within : ∀ place ∈ List.range' start.toNat bytes.length step, InNametables place := by
      intro place among
      apply inside
      rw [List.range'_concat]
      exact List.mem_append_left _ among
    obtain ⟨after, run, stored⟩ := foldl_writes slot bytes (congrArg _ toWrite.here)
      (congrArg (·.increment.toNat) toWrite.control) within apart
    obtain ⟨again, aimedAgain, toRead⟩ := foldl_aim after slot short
    have ready : aimed = (again, slot) := by
      simp only [aimed, writes, List.foldl_append, aimedBefore, run, aimedAgain]
    obtain ⟨nametables, patterns, palette, scroll, same⟩ := stored.registers
    have steady : again.control.increment.toNat = step := by
      rw [toRead.control, same, toWrite.control]
    have told := answers_reads slot bytes.length (congrArg _ toRead.here) steady inside
    obtain ⟨scroll, readBuffer, last⟩ := foldl_reads slot (bytes.length + 1) again
    have ended : now = ({ again with scroll, readBuffer }, slot) := by
      simp only [now, reads, ready, last]
    rw [ready, ended, told]
    refine ⟨?_, ?_, rfl, fun cell other => ?_⟩
    · have buffer : again.readBuffer = ppu.readBuffer := by
        rw [toRead.readBuffer, same, toWrite.readBuffer]
      have contents : again.contents = after.contents := funext toRead.contents
      rw [buffer, contents, stored.stored]
    · rw [toRead.oam, same, toWrite.oam]
    · have kept : ({ again with scroll, readBuffer } : Ppu).contents cell
          = again.contents cell := by
        cases cell <;> rfl
      rw [kept, toRead.contents, stored.others cell other, toWrite.contents]
  · rw [scroll_access_of_data _ data, toNat_advance, toNat_increment]

/-- Down a column the second of two bytes lies in the next nametable. -/
theorem data_port_round_trip_column :
    let ppu := Ppu.put { powerOn with control := ⟨4⟩, readBuffer := 0xAA, scroll := ⟨0x3F10⟩ } 0x2C
      (.palette 0)
    let writes := aim 0x23E0 ++ [.write 0x2007 0x11, .write 0x2007 0x22]
    let aimed := (aim 0x23E0).foldl access (writes.foldl access (ppu, (none : Option Cartridge)))
    answers aimed [.read 0x2007, .read 0x2007, .read 0x2007] = [0xAA, 0x11, 0x22] ∧
      (access (ppu, (none : Option Cartridge)) (.write 0x3FFF 0x00)).1.scroll.raw.toNat = 0x3F30 ∧
      (ppu.readRegister (none : Option Cartridge) 0x2007).1 = 0x2C := by
  intro ppu writes aimed
  obtain ⟨stream, moves, palette⟩ := data_port_round_trip none ppu
  exact ⟨(stream 0x23E0 [0x11, 0x22] (by decide) (by decide)).1,
    (moves (.write 0x3FFF 0x00) rfl).trans (by decide), (palette (by decide)).trans (by decide)⟩

end Streams

end Nes.Ppu
