import Nes.Proofs.Ppu.DotWork
import Nes.Proofs.Ppu.SpriteLookUp

/-!
# The sprites move over a line

The sprites of a line are selected at the end of the line before it, and their patterns are fetched
in its last dot. On the line itself each of them waits until its column comes, and then moves its
pattern out bit by bit. `Lined` says what the slots and the shift registers hold in a column, so the
first slot that shows a colour there is the sprite that the direct look-up finds
(`Lined.foreground`).
-/
namespace Nes.Ppu

/-- A shift register after a pattern has moved by a number of bits. -/
def Moved (pattern : UInt8) (count : Nat) (register : UInt8) : Prop :=
  ∀ place < 8, bit register place = (decide (count ≤ place) && bit pattern (place - count))

namespace Moved

variable {pattern register : UInt8} {count : Nat}

/-- A register that has just been filled holds the pattern. -/
theorem zero (pattern : UInt8) : Moved pattern 0 pattern := by
  intro place _
  simp

/-- Each shift moves the pattern by one bit more. -/
theorem shift (moved : Moved pattern count register) :
    Moved pattern (count + 1) (register <<< 1) := by
  intro place inside
  have bits : bit (register <<< 1) place = (decide (1 ≤ place) && bit register (place - 1)) := by
    rw [bit, UInt8.toNat_shiftLeft]
    change (register.toNat <<< 1 % 2 ^ 8).testBit place = _
    rw [Nat.testBit_mod_two_pow, Nat.testBit_shiftLeft]
    simp [inside, bit]
  rw [bits]
  by_cases low : place = 0
  · subst low
    simp
  · have less : place - 1 < 8 := by omega
    have later : count + 1 ≤ place ↔ count ≤ place - 1 := by omega
    have same : place - 1 - count = place - (count + 1) := by omega
    rw [moved _ less, same, decide_eq_true (by omega : 1 ≤ place), Bool.true_and]
    simp only [later]

end Moved

/-- The slots hold sprites and their patterns when the line has come to a column. -/
structure Lined (entries : List OamEntry) (pattern : OamEntry → Nat → UInt8) (column : Nat)
    (sprites : Sprites) : Prop where
  /-- Each sprite has a slot. -/
  count : sprites.count.toNat = entries.length
  /-- Palette and priority stay. -/
  looks : ∀ (index : Fin 8) (used : index.val < entries.length),
    sprites.slots[index].attributes = entries[index.val].attributes
  /-- A slot has counted down towards the column of its sprite. -/
  waits : ∀ (index : Fin 8) (used : index.val < entries.length),
    sprites.slots[index].x.toNat = entries[index.val].x.toNat - column
  /-- Behind that column the low plane has moved out bit by bit. -/
  low : ∀ (index : Fin 8) (used : index.val < entries.length),
    Moved (pattern entries[index.val] 0) (column - entries[index.val].x.toNat)
      sprites.patternLow[index]
  /-- So has the high plane. -/
  high : ∀ (index : Fin 8) (used : index.val < entries.length),
    Moved (pattern entries[index.val] 1) (column - entries[index.val].x.toNat)
      sprites.patternHigh[index]

/-- Waiting for its column changes neither palette nor priority of a sprite. -/
theorem attributes_countDown (entry : OamEntry) :
    (Sprites.countDown entry).attributes = entry.attributes := by
  rw [Sprites.countDown]
  split <;> rfl

/-- A waiting slot comes one dot closer to its column, and stays there. -/
theorem toNat_x_countDown (entry : OamEntry) :
    (Sprites.countDown entry).x.toNat = entry.x.toNat - 1 := by
  rw [Sprites.countDown]
  by_cases arrived : entry.x = 0
  · rw [if_pos arrived, arrived]
    rfl
  · have positive : 0 < entry.x.toNat :=
      Nat.pos_of_ne_zero fun zero => arrived (UInt8.toNat_inj.1 zero)
    rw [if_neg arrived, UInt8.toNat_sub_of_le]
    · rfl
    · exact UInt8.le_iff_toNat_le.2 positive

namespace Lined

variable {entries : List OamEntry} {pattern : OamEntry → Nat → UInt8} {column : Nat}
  {sprites : Sprites} (lined : Lined entries pattern column sprites)

include lined

/-- The slots in use are those of the entries. -/
theorem uses_iff (index : Nat) : sprites.uses index = true ↔ index < entries.length := by
  rw [Sprites.uses, lined.count, decide_eq_true_iff]

/-- A sprite has arrived where its column is not to the right. -/
theorem arrived_iff (index : Fin 8) (used : index.val < entries.length) :
    (sprites.slots[index].x == 0) = true ↔ entries[index.val].x.toNat ≤ column := by
  rw [beq_iff_eq, ← UInt8.toNat_inj, lined.waits index used]
  change _ = 0 ↔ _
  omega

/-- A dot moves the line on by one column. -/
theorem shift : Lined entries pattern (column + 1) sprites.shift := by
  by_cases none : sprites.count = 0
  · have noEntry (index : Fin 8) (used : index.val < entries.length) : False := by
      have count := lined.count
      rw [none] at count
      change 0 = _ at count
      omega
    rw [Sprites.shift, if_pos none]
    exact ⟨lined.count, fun index used => (noEntry index used).elim,
      fun index used => (noEntry index used).elim, fun index used => (noEntry index used).elim,
      fun index used => (noEntry index used).elim⟩
  · have cell {α : Type} (make : Fin 8 → α) (index : Fin 8) :
        (Vector.ofFn make)[index] = make index :=
      Vector.getElem_ofFn index.isLt
    rw [Sprites.shift, if_neg none]
    have moves (index : Fin 8) (used : index.val < entries.length) (plane : Nat) (register : UInt8)
        (moved : Moved (pattern entries[index.val] plane)
          (column - entries[index.val].x.toNat) register) :
        Moved (pattern entries[index.val] plane) (column + 1 - entries[index.val].x.toNat)
          (if sprites.uses index && sprites.slots[index].x == 0 then register <<< 1
            else register) := by
      have arrived := lined.arrived_iff index used
      rw [(lined.uses_iff index).2 used, Bool.true_and]
      by_cases come : entries[index.val].x.toNat ≤ column
      · rw [if_pos (arrived.2 come), Nat.succ_sub come]
        exact moved.shift
      · rw [if_neg (mt arrived.1 come), show column + 1 - entries[index.val].x.toNat
          = column - entries[index.val].x.toNat by omega]
        exact moved
    refine ⟨lined.count, fun index used => ?_, fun index used => ?_, fun index used => ?_,
      fun index used => ?_⟩ <;> dsimp only <;> rw [cell]
    · rw [if_pos ((lined.uses_iff index).2 used), attributes_countDown]
      exact lined.looks index used
    · rw [if_pos ((lined.uses_iff index).2 used), toNat_x_countDown, lined.waits index used]
      omega
    · exact moves index used 0 _ (lined.low index used)
    · exact moves index used 1 _ (lined.high index used)

/-- A slot shows the bits of its patterns in the eight columns from its own on. -/
theorem colorOf_eq (index : Fin 8) (used : index.val < entries.length) :
    sprites.colorOf index
      = if entries[index.val].x.toNat ≤ column ∧ column < entries[index.val].x.toNat + 8 then
          Background.pairOf
            (bit (pattern entries[index.val] 1) (7 - (column - entries[index.val].x.toNat)))
            (bit (pattern entries[index.val] 0) (7 - (column - entries[index.val].x.toNat)))
        else 0 := by
  have arrived := lined.arrived_iff index used
  have low := lined.low index used 7 (by decide)
  have high := lined.high index used 7 (by decide)
  generalize entries[index.val] = entry at *
  rw [Sprites.colorOf, (lined.uses_iff index).2 used, Bool.true_and]
  by_cases come : entry.x.toNat ≤ column
  · rw [if_pos (arrived.2 come), low, high]
    by_cases gone : column < entry.x.toNat + 8
    · rw [if_pos ⟨come, gone⟩, decide_eq_true (by omega : column - entry.x.toNat ≤ 7),
        Bool.true_and, Bool.true_and]
    · rw [if_neg fun here => gone here.2,
        decide_eq_false (by omega : ¬column - entry.x.toNat ≤ 7), Bool.false_and, Bool.false_and]
      rfl
  · rw [if_neg (mt arrived.1 come), if_neg fun here => come here.1]

/-- A line is known by the patterns of its own sprites. -/
theorem of_patterns {other : OamEntry → Nat → UInt8}
    (same : ∀ entry ∈ entries, ∀ plane < 2, pattern entry plane = other entry plane) :
    Lined entries other column sprites where
  count := lined.count
  looks := lined.looks
  waits := lined.waits
  low index used := by
    rw [← same _ (List.getElem_mem used) 0 (by decide)]
    exact lined.low index used
  high index used := by
    rw [← same _ (List.getElem_mem used) 1 (by decide)]
    exact lined.high index used

end Lined

/-- The first slot with a property holds the first entry with it. -/
theorem find?_finRange {α : Type} (holds : α → Bool) (entries : List α) (slots : Nat)
    (fit : entries.length ≤ slots) :
    (((List.finRange slots).find? fun index => (entries[index.val]?).any holds).bind
      fun index => entries[index.val]?) = entries.find? holds := by
  induction entries generalizing slots with
  | nil =>
    have none : ((List.finRange slots).find? fun _ => false) = none := by
      simp
    exact congrArg (Option.bind · _) none
  | cons entry entries ih =>
    obtain ⟨slots, rfl⟩ : ∃ fewer, slots = fewer + 1 := ⟨slots - 1, by simp at fit; omega⟩
    have rest := ih slots (by simpa using fit)
    rw [List.finRange_succ, List.find?_cons, List.find?_cons]
    by_cases first : holds entry = true
    · simp [first]
    · simp only [Fin.val_zero, List.getElem?_cons_zero, Option.any_some, first, List.find?_map,
        Option.bind_map]
      exact rest

section Foreground

variable {video : Nat → UInt8} {control : Control} {line column : Nat} {entries : List OamEntry}
  {sprites : Sprites}
  (lined : Lined entries (fun entry => entry.pattern video control line) column sprites)

include lined

/-- A slot shows its sprite in the eight columns from its own on. -/
theorem Lined.colorOf_of_used (index : Fin 8) (used : index.val < entries.length) :
    sprites.colorOf index
      = if entries[index.val].x.toNat ≤ column ∧ column < entries[index.val].x.toNat + 8 then
          entries[index.val].colorAt video control line (column - entries[index.val].x.toNat)
        else 0 := by
  rw [lined.colorOf_eq index used]
  generalize entries[index.val] = entry
  by_cases here : entry.x.toNat ≤ column ∧ column < entry.x.toNat + 8
  · have inside : column - entry.x.toNat < 8 := by omega
    rw [if_pos here, if_pos here, entry.bit_pattern video control line 0 inside,
      entry.bit_pattern video control line 1 inside]
    rfl
  · rw [if_neg here, if_neg here]

/-- In a column of the line, a slot shows a colour just where the sprite in it does. -/
theorem Lined.colorOf_ne_zero (index : Fin 8) :
    (sprites.colorOf index != 0)
      = (entries[index.val]?).any (·.shows video control line column) := by
  by_cases used : index.val < entries.length
  · rw [lined.colorOf_of_used index used, List.getElem?_eq_getElem used, Option.any_some]
    generalize entries[index.val] = entry
    rw [OamEntry.shows]
    by_cases here : entry.x.toNat ≤ column ∧ column < entry.x.toNat + 8
    · rw [if_pos here, decide_eq_true here.1, decide_eq_true here.2]
      rfl
    · rw [if_neg here]
      rcases Decidable.not_and_iff_or_not.1 here with early | late
      · rw [decide_eq_false early]
        rfl
      · rw [decide_eq_false late, Bool.and_false]
        rfl
  · have free : (sprites.uses index && sprites.slots[index].x == 0) = false := by
      rw [Bool.eq_false_iff.2 (mt (lined.uses_iff index).1 used), Bool.false_and]
    rw [Sprites.colorOf, free, List.getElem?_eq_none (by omega)]
    rfl

/-- The chip shows what the look-up finds. -/
theorem Lined.foreground (few : entries.length ≤ 8) :
    sprites.foreground.1
      = match entries.find? (·.shows video control line column) with
        | none => .clear
        | some entry =>
          ⟨⟨entry.palette, entry.colorAt video control line (column - entry.x.toNat)⟩,
            !entry.liesBehind⟩ := by
  have found := find?_finRange (·.shows video control line column) entries 8 few
  have shown : sprites.shown? = (List.finRange 8).find? fun index =>
      (entries[index.val]?).any (·.shows video control line column) := by
    rw [Sprites.shown?]
    congr 1
    exact funext lined.colorOf_ne_zero
  rw [← shown] at found
  rw [Sprites.foreground, ← found]
  cases first : sprites.shown? with
  | none => rfl
  | some index =>
    have shows := List.find?_some first
    rw [lined.colorOf_ne_zero index] at shows
    have used : index.val < entries.length := by
      rcases Nat.lt_or_ge index.val entries.length with used | unused
      · exact used
      · rw [List.getElem?_eq_none unused] at shows
        cases shows
    rw [List.getElem?_eq_getElem used, Option.any_some, OamEntry.shows, Bool.and_eq_true,
      Bool.and_eq_true, decide_eq_true_iff, decide_eq_true_iff] at shows
    have looks := lined.looks index used
    have color := lined.colorOf_of_used index used
    rw [if_pos shows.1] at color
    simp only [Option.bind_some, List.getElem?_eq_getElem used, color, OamEntry.palette,
      OamEntry.liesBehind, looks]

end Foreground

/-- The note which sprite was shown last has no part in the foreground. -/
theorem foreground_unmarked (sprites : Sprites) :
    sprites.unmarked.foreground.1 = sprites.foreground.1 := by
  have same : sprites.unmarked.shown? = sprites.shown? := rfl
  simp only [Sprites.foreground, same]
  cases sprites.shown? <;> rfl

/-- The slots hold sprites whose patterns may not be there yet. -/
structure Selected (entries : List OamEntry) (sprites : Sprites) : Prop where
  /-- Each sprite has a slot. -/
  count : sprites.count.toNat = entries.length
  /-- The slots hold them in order. -/
  slots : ∀ (index : Fin 8) (used : index.val < entries.length),
    sprites.slots[index] = entries[index.val]

/-- The selected sprites are those that the direct look-up finds below the line. -/
theorem selected_select (sprites : Sprites) (oam : Memory 256) {line : Int16} {number : Nat}
    (same : line.toInt = number) (height : Nat) :
    Selected (spritesBelow oam number height) (sprites.select oam line height).unmarked := by
  have few : (spritesBelow oam number height).length ≤ 8 := List.length_take_le _ _
  constructor
  · simp only [Sprites.unmarked, Sprites.select, take_onLine oam same height, Nat.toUInt8]
    rw [UInt8.toNat_ofNat']
    omega
  · intro index used
    simp only [Sprites.unmarked, Sprites.select, take_onLine oam same height]
    refine (Vector.getElem_ofFn index.isLt).trans ?_
    rw [List.getElem?_eq_getElem used]
    rfl

section Fetch

variable {κ : Type} [CartridgeSide κ] {ppu : Ppu} {place : Nat} (here : StandsAt ppu place)
  (slot : κ) (renders : place < 341 * 241)

include here renders

/-- Behind the picture of a line the sprites of the next one are selected, whatever was there. -/
theorem StandsAt.lineup_composing_of_select (last : place % 341 = 257) (visible : 341 ≤ place) :
    ∃ sprites : Sprites, (ppu.composing slot).lineup
      = (sprites.select ppu.oam ppu.line ppu.control.spriteHeight).unmarked := by
  have grid := (grid_moveToNextLine slot (ppu.runPipelines slot)).trans (grid_runPipelines slot ppu)
  have held := ppu.held_moveToNextLine slot
  have work := here.renderDot_of_later slot (by omega)
  dsimp only at grid
  generalize (ppu.runPipelines slot).moveToNextLine slot = moved at grid held work
  have line : moved.line = ppu.line := congrArg Grid.line grid
  have oam : moved.oam = ppu.oam := congrArg Held.oam held
  have control : moved.control = ppu.control := congrArg Held.control held
  refine ⟨moved.sprites, ?_⟩
  rw [(ppu.sides_composing slot (here.rendersLine_iff.2 renders)).2, work,
    (here.of_grid grid).runSprites_of_select slot last visible, ← oam, ← line, ← control]
  rfl

/-- In the last dot of a line the patterns of its sprites are fetched. -/
theorem StandsAt.lineup_composing_of_fetch (last : place % 341 = 340) :
    (ppu.composing slot).lineup = (ppu.fetchSprites slot).lineup := by
  have grid := (grid_moveToNextLine slot (ppu.runPipelines slot)).trans (grid_runPipelines slot ppu)
  have held := ppu.held_moveToNextLine slot
  have work := here.renderDot_of_later slot (by omega)
  have sprites := here.sprites_moveToNextLine slot (by omega)
  rw [if_neg (by omega)] at sprites
  dsimp only at grid
  generalize (ppu.runPipelines slot).moveToNextLine slot = moved at grid held work sprites
  have line : moved.line = ppu.line := congrArg Grid.line grid
  have control : moved.control = ppu.control := congrArg Held.control held
  rw [(ppu.sides_composing slot (here.rendersLine_iff.2 renders)).2, work,
    (here.of_grid grid).runSprites_of_fetch slot last]
  simp only [lineup, fetchSprites, spritePlane, readVideo_of_held held, line, control, sprites]

end Fetch

/-- Fetching the patterns of the selected sprites makes the line ready. -/
theorem Selected.fetched {κ : Type} [CartridgeSide κ] {ppu : Ppu} {entries : List OamEntry}
    (selected : Selected entries ppu.lineup) (slot : κ) :
    Lined entries (fun entry plane => ppu.spritePlane slot entry (if plane = 0 then 0 else 8)) 0
      (ppu.fetchSprites slot).lineup := by
  have slots (index : Fin 8) (used : index.val < entries.length) :
      ppu.sprites.slots[index] = entries[index.val] := selected.slots index used
  have uses (index : Fin 8) (used : index.val < entries.length) :
      ppu.sprites.uses index = true := by
    rw [Sprites.uses, decide_eq_true_iff]
    exact Nat.lt_of_lt_of_eq used selected.count.symm
  have plane (index : Fin 8) (used : index.val < entries.length) (offset : UInt16)
      (old : Vector UInt8 8) :
      Moved (ppu.spritePlane slot entries[index.val] offset) (0 - entries[index.val].x.toNat)
        ((Vector.ofFn fun index =>
          if ppu.sprites.uses index then ppu.spritePlane slot (ppu.sprites.slots.get index) offset
          else old.get index)[index]) := by
    have cell : ∀ make : Fin 8 → UInt8, (Vector.ofFn make)[index] = make index :=
      fun make => Vector.getElem_ofFn index.isLt
    have entry : ppu.sprites.slots.get index = entries[index.val] := slots index used
    rw [cell, if_pos (uses index used), entry, Nat.zero_sub]
    exact Moved.zero _
  exact {
    count := selected.count
    looks := fun index used => congrArg OamEntry.attributes (slots index used)
    waits := fun index used => congrArg (fun entry : OamEntry => entry.x.toNat) (slots index used)
    low := fun index used => plane index used 0 _
    high := fun index used => plane index used 8 _ }

/-- Where the patterns are read from a map of addresses, they are those of the look-up. -/
theorem Selected.fetch {κ : Type} [CartridgeSide κ] {ppu : Ppu} {slot : κ} {video : Nat → UInt8}
    {entries : List OamEntry} {line : Nat} (selected : Selected entries ppu.lineup)
    (reads : ReadsPatterns ppu slot video) (same : ppu.line.toInt = line)
    (reached : ∀ entry ∈ entries, entry.reaches line ppu.control.spriteHeight = true) :
    Lined entries (fun entry => entry.pattern video ppu.control line) 0
      (ppu.fetchSprites slot).lineup := by
  refine (selected.fetched slot).of_patterns fun entry listed plane few => ?_
  apply reads.spritePlane same (reached entry listed) _ few
  split
  next low =>
    rw [low]
    rfl
  next high =>
    have one : plane = 1 := by omega
    rw [one]
    rfl

section Line

variable {κ : Type} [CartridgeSide κ] {ppu : Ppu} (slot : κ) {line : Nat}
  (here : StandsAt ppu (341 * (line + 1) + 257)) (visible : line < 239)
  (shown : ppu.mask.showSprites = true)
  (steady : ∀ count < 341,
    CartridgeSide.readCharacter (ppu.clocked slot count).2 = CartridgeSide.readCharacter slot)

include here visible

/-- No dot is left out behind the first line. -/
theorem standsAt_of_line (count : Nat) (within : count ≤ 341) :
    StandsAt (ppu.clocked slot count).1 (341 * (line + 1) + 257 + count) := by
  have none : ppu.leftOutWithin (341 * (line + 1) + 257) count = 0 :=
    if_neg fun left => absurd left.2.1 (by omega)
  have there := (here.clocked slot count (by omega)).1
  rwa [none] at there

/-- From the dot behind the picture to the end of the line the sprites of the next one are
selected. -/
theorem selected_of_line (count : Nat) (within : count < 83) :
    Selected (spritesBelow ppu.oam line ppu.control.spriteHeight)
      (ppu.clocked slot (count + 1)).1.lineup := by
  induction count with
  | zero =>
    have same : ppu.line.toInt = line := by
      rw [here.line]
      omega
    obtain ⟨sprites, selects⟩ :=
      here.lineup_composing_of_select slot (by omega) (by omega) (by omega)
    rw [clocked_ppu_succ, (sides_clock _ _).2]
    change Selected _ (ppu.composing slot).lineup
    rw [selects]
    exact selected_select sprites ppu.oam same _
  | succ count ih =>
    have there := standsAt_of_line slot here visible (count + 1) (by omega)
    rw [clocked_ppu_succ, (sides_clock _ _).2,
      there.lineup_composing_of_plain _ (by omega) (by omega) (by omega) (by omega),
      if_neg (by omega)]
    exact ih (by omega)

include shown steady

/-- From the next line's first dot on its sprites are ready, and each dot of the picture moves them
on by one column. -/
theorem lined_of_line (count : Nat) (within : count ≤ 257) :
    Lined (spritesBelow ppu.oam line ppu.control.spriteHeight)
      (fun entry => entry.pattern (ppu.videoAt slot) ppu.control line) (count - 2)
      (ppu.clocked slot (84 + count)).1.lineup := by
  induction count with
  | zero =>
    have there := standsAt_of_line slot here visible 83 (by omega)
    have selected := selected_of_line slot here visible 82 (by omega)
    have held := ppu.held_clocked slot 83
    have control := ppu.control_clocked slot 83
    have same : (ppu.clocked slot 83).1.line.toInt = line := by
      rw [there.line]
      omega
    have fetched := selected.fetch (ReadsPatterns.of_held held (steady 83 (by decide))) same
      fun entry listed => by
        rw [control]
        exact (List.mem_filter.1 (List.mem_of_mem_take listed)).2
    rw [control] at fetched
    rw [clocked_ppu_succ, (sides_clock _ _).2,
      there.lineup_composing_of_fetch _ (by omega) (by omega)]
    exact fetched
  | succ count ih =>
    have there := standsAt_of_line slot here visible (84 + count) (by omega)
    have mask := ppu.mask_clocked slot (84 + count)
    have lined := ih (by omega)
    rw [← Nat.add_assoc, clocked_ppu_succ, (sides_clock _ _).2]
    by_cases early : count < 2
    · rw [there.lineup_composing_of_early _ (by omega) (by omega),
        show count + 1 - 2 = count - 2 by omega]
      exact lined
    · rw [there.lineup_composing_of_plain _ (by omega) (by omega) (by omega) (by omega),
        if_pos ⟨by rw [mask]; exact shown, by omega⟩, show count + 1 - 2 = count - 2 + 1 by omega]
      exact lined.shift

end Line

/-- The sprite pipeline draws sprite memory. -/
theorem spriteForeground_of_line {κ : Type} [CartridgeSide κ] (ppu : Ppu) (slot : κ) (line : Nat)
    (visible : line < 239) (there : ppu.line.toInt = line) (dot : ppu.dot = 257)
    (shown : ppu.mask.showSprites = true) (shownLeft : ppu.mask.showSpritesLeft = true)
    (steady : ∀ count < 341,
      CartridgeSide.readCharacter (ppu.clocked slot count).2 = CartridgeSide.readCharacter slot)
    (x : Nat) (column : x < 256) :
    let composing := ppu.composingAfter slot (85 + x)
    composing.line.toInt = line + 1 ∧ composing.dot.toInt = x + 1 ∧
      composing.spriteForeground.1
        = foregroundAt (ppu.videoAt slot) ppu.control ppu.oam line x := by
  have here : StandsAt ppu (341 * (line + 1) + 257) := by
    refine ⟨by omega, by rw [there]; omega, ?_⟩
    rw [dot]
    change (257 : Int) = _
    omega
  have lined := lined_of_line slot here visible shown steady (x + 2) (by omega)
  have none : ppu.leftOutWithin (341 * (line + 1) + 257) (85 + x + 1) = 0 :=
    if_neg fun left => absurd left.2.1 (by omega)
  have fewer := ppu.leftOutWithin_le_succ (341 * (line + 1) + 257) (85 + x)
  have place := here.composingAfter slot (85 + x) (by omega)
  have held := ppu.held_composingAfter slot (85 + x)
  have next : 84 + (x + 2) = 85 + x + 1 := by omega
  rw [none] at place
  rw [next, clocked_ppu_succ, (sides_clock _ _).2, Nat.add_sub_cancel] at lined
  change Lined _ _ _ (ppu.composingAfter slot (85 + x)).lineup at lined
  dsimp only
  generalize ppu.composingAfter slot (85 + x) = composing at *
  refine ⟨?_, ?_, ?_⟩
  · rw [place.line]
    omega
  · rw [place.dot]
    omega
  · have mask : composing.mask = ppu.mask := congrArg Held.mask held
    have visible : (composing.mask.showSprites
        && (9 ≤ composing.dot || composing.mask.showSpritesLeft)) = true := by
      rw [mask, shown, shownLeft, Bool.or_true, Bool.and_true]
    rw [spriteForeground, if_pos visible]
    exact (foreground_unmarked composing.sprites).symm.trans
      (lined.foreground (List.length_take_le _ _))

end Nes.Ppu
