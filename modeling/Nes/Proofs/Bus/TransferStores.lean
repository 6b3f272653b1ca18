import Mathlib.Data.List.Basic
import Nes.OamTransfer

/-!
# What a transfer stores

The transfer engine can be started at any time, also in the middle of a transfer. Its turns are even
and odd in turn, and it has a turn only while it is active. What it does is noted in a log, and what
it is to do next is read off the log (`OamTransfer.Since`): the page of the latest start and the
indexes stored since then. The invariant is that an engine which is about to store holds the byte of
the read that came last (`OamTransfer.Holds`).

A start does not make the engine wait for a new pair of turns. If it comes between a read and its
store, the byte of the old page is stored at the start of sprite memory, and the first byte of the
new page is never read (`OamTransfer.stores_of_occasions`).
-/
namespace Nes.OamTransfer

/-- What can happen to the engine. -/
inductive Occasion where
  /-- A transfer of a page is started. -/
  | start (page : UInt8)
  /-- A turn comes round, in which a read would be answered with a byte. -/
  | turn (answer : UInt8)
deriving DecidableEq

/-- What is noted of an occasion. -/
inductive Mark where
  /-- A transfer of a page was started. -/
  | started (page : UInt8)
  /-- The engine waited. -/
  | waited
  /-- The engine read an address and was given a byte. -/
  | read (address : UInt16) (value : UInt8)
  /-- The engine stored a byte in sprite memory. -/
  | stored (index value : UInt8)
deriving DecidableEq

/-- The engine with a log of what it has done. -/
structure Log where
  /-- What has been noted, in order. -/
  marks : List Mark
  /-- The engine. -/
  transfer : OamTransfer
  /-- Whether the next turn is odd. -/
  odd : Bool
deriving DecidableEq

namespace Log

/-- The log after an occasion. Every turn changes between even and odd, but only those of an active
engine are noted. -/
def happen (log : Log) : Occasion → Log
  | .start page => ⟨log.marks ++ [.started page], log.transfer.start page, log.odd⟩
  | .turn answer =>
    if log.transfer.active then
      match log.transfer.advance log.odd with
      | (.wait, transfer) => ⟨log.marks ++ [.waited], transfer, !log.odd⟩
      | (.read address, transfer) =>
        ⟨log.marks ++ [.read address answer], transfer.hand answer, !log.odd⟩
      | (.store index value, transfer) => ⟨log.marks ++ [.stored index value], transfer, !log.odd⟩
    else { log with odd := !log.odd }

/-- The log of all occasions from power-on, with a first turn that is even or odd. -/
def of (odd : Bool) (occasions : List Occasion) : Log :=
  occasions.foldl happen ⟨[], .powerOn, odd⟩

end Log

/-- What a log says about the latest start. -/
structure Since where
  /-- The page of the latest start. -/
  page? : Option UInt8
  /-- The indexes stored since then, in order. -/
  stored : List UInt8
deriving DecidableEq

namespace Since

/-- A further mark. -/
def note (since : Since) : Mark → Since
  | .started page => ⟨some page, []⟩
  | .stored index _ => { since with stored := since.stored ++ [index] }
  | .waited | .read _ _ => since

/-- What all marks say. -/
def of (marks : List Mark) : Since := marks.foldl note ⟨none, []⟩

/-- The last mark is noted behind all others. -/
theorem of_concat (marks : List Mark) (mark : Mark) :
    of (marks ++ [mark]) = (of marks).note mark := List.foldl_concat ..

/-- Right after a start nothing has been stored. -/
theorem of_starts (marks : List Mark) {starts : List UInt8} (restarted : starts ≠ []) :
    (of (marks ++ starts.map .started)).stored = [] := by
  obtain ⟨starts, last, rfl⟩ := (List.eq_nil_or_concat' starts).resolve_left restarted
  rw [List.map_append, ← List.append_assoc]
  exact congrArg Since.stored (of_concat _ _)

end Since

/-- The latest turn was a read, which was answered with a byte, and only starts have followed. The
address was the next one of the page that was being transferred then. -/
def Holds (marks : List Mark) (value : UInt8) : Prop :=
  ∃ (earlier : List Mark) (address : UInt16) (page : UInt8) (starts : List UInt8),
    marks = earlier ++ .read address value :: starts.map .started ∧
    (Since.of earlier).page? = some page ∧ (Since.of earlier).stored.length < 256 ∧
    address.toNat = 256 * page.toNat + (Since.of earlier).stored.length

/-- What the state of the engine has to do with its log. -/
structure Sound (log : Log) : Prop where
  /-- An engine at rest waits for an odd turn next. -/
  idle : log.transfer.active = false → log.transfer.idle = true
  /-- An active engine works on the page of the latest start. -/
  page : log.transfer.active = true → (Since.of log.marks).page? = some log.transfer.page
  /-- The cursor counts what has been stored since then. -/
  cursor : log.transfer.active = true →
    (Since.of log.marks).stored.length = log.transfer.cursor.toNat
  /-- Sprite memory is filled from its start in order. -/
  inOrder : ∃ count ≤ 256, (Since.of log.marks).stored = (List.range count).map Nat.toUInt8
  /-- A working engine stores in its odd turns, and holds a byte for it. -/
  holds : log.transfer.idle = false → log.odd = true → Holds log.marks log.transfer.latch

section Steps

variable {log : Log}

/-- A start forgets what was stored before it, and a byte that is held stays held. -/
theorem Sound.start (sound : Sound log) (page : UInt8) : Sound (log.happen (.start page)) := by
  have since : Since.of (log.happen (.start page)).marks = ⟨some page, []⟩ := Since.of_concat _ _
  constructor
  case idle => exact fun inactive => absurd inactive.symm Bool.noConfusion
  case page => exact fun _ => congrArg Since.page? since
  case cursor => exact fun _ => congrArg (·.stored.length) since
  case inOrder => exact ⟨0, Nat.zero_le _, congrArg Since.stored since⟩
  case holds =>
    intro busy odd
    obtain ⟨earlier, address, read, starts, marks, rest⟩ := sound.holds busy odd
    refine ⟨earlier, address, read, starts ++ [page], ?_, rest⟩
    change log.marks ++ [.started page] = _
    rw [marks, List.map_append, List.append_assoc]
    rfl

/-- A turn of an engine at rest changes nothing but whether the next one is odd. -/
theorem Sound.pass (sound : Sound log) (inactive : log.transfer.active = false) :
    Sound { log with odd := !log.odd } := by
  have idle := sound.idle inactive
  exact ⟨sound.idle, sound.page, sound.cursor, sound.inOrder,
    fun busy => absurd (idle.symm.trans busy) Bool.noConfusion⟩

/-- In a turn of an active engine that stores nothing, only what it holds can change. -/
theorem Sound.noted (sound : Sound log) (active : log.transfer.active = true) {mark : Mark}
    (quiet : ∀ since : Since, since.note mark = since) {idle odd : Bool} {latch : UInt8}
    (holds : idle = false → odd = true → Holds (log.marks ++ [mark]) latch) :
    Sound ⟨log.marks ++ [mark], { log.transfer with idle, latch }, odd⟩ := by
  have since : Since.of (log.marks ++ [mark]) = Since.of log.marks :=
    (Since.of_concat _ _).trans (quiet _)
  constructor
  case idle => exact fun inactive => absurd (active.symm.trans inactive) Bool.noConfusion
  case page =>
    rw [since]
    exact sound.page
  case cursor =>
    rw [since]
    exact sound.cursor
  case inOrder =>
    rw [since]
    exact sound.inOrder
  case holds => exact holds

/-- A wait stores nothing, and an engine that ends waiting has an even turn next. -/
theorem Sound.wait (sound : Sound log) (active : log.transfer.active = true) :
    Sound ⟨log.marks ++ [.waited], { log.transfer with idle := !log.odd }, !log.odd⟩ :=
  sound.noted active (fun _ => rfl) fun even odd =>
    absurd (even.symm.trans odd) Bool.noConfusion

/-- A read of the next address of the page gives the engine a byte to hold. -/
theorem Sound.read (sound : Sound log) (active : log.transfer.active = true) (answer : UInt8) :
    Sound ⟨log.marks ++ [.read (wordOf log.transfer.cursor log.transfer.page) answer],
      log.transfer.hand answer, true⟩ := by
  have count := sound.cursor active
  refine sound.noted active (fun _ => rfl) fun _ _ => ?_
  refine ⟨log.marks, _, log.transfer.page, [], rfl, sound.page active, ?_, ?_⟩
  · rw [count]
    exact log.transfer.cursor.toNat_lt
  · rw [count, toNat_wordOf]

/-- A store adds its index to the list and moves on to the next one. -/
theorem Sound.store (sound : Sound log) (active : log.transfer.active = true) :
    Sound ⟨log.marks ++ [.stored log.transfer.cursor log.transfer.latch],
      { log.transfer with
        cursor := log.transfer.cursor + 1
        idle := log.transfer.cursor + 1 == 0
        active := log.transfer.active && !(log.transfer.cursor + 1 == 0) }, false⟩ := by
  have since : Since.of (log.marks ++ [.stored log.transfer.cursor log.transfer.latch])
      = { Since.of log.marks with
          stored := (Since.of log.marks).stored ++ [log.transfer.cursor] } := Since.of_concat _ _
  have count := sound.cursor active
  have bound := log.transfer.cursor.toNat_lt
  constructor
  case idle =>
    intro inactive
    rw [active, Bool.true_and, Bool.not_eq_false'] at inactive
    exact inactive
  case page =>
    intro _
    rw [since]
    exact sound.page active
  case cursor =>
    intro going
    rw [active, Bool.true_and, Bool.not_eq_true', beq_eq_false_iff_ne, Ne, ← UInt8.toNat_inj,
      UInt8.toNat_add] at going
    change ¬(log.transfer.cursor.toNat + 1) % 2 ^ 8 = 0 at going
    rw [since, List.length_append, count, UInt8.toNat_add]
    change log.transfer.cursor.toNat + 1 = (log.transfer.cursor.toNat + 1) % 2 ^ 8
    omega
  case inOrder =>
    obtain ⟨stored, -, order⟩ := sound.inOrder
    have same : stored = log.transfer.cursor.toNat := by
      rw [← count, order, List.length_map, List.length_range]
    have last : log.transfer.cursor = stored.toUInt8 := by
      rw [same]
      exact UInt8.ofNat_toNat.symm
    refine ⟨stored + 1, by omega, ?_⟩
    rw [since, order, last, List.range_succ, List.map_append]
    rfl
  case holds => exact fun _ odd => absurd odd Bool.noConfusion

/-- Every occasion keeps the engine in step with its log. -/
theorem Sound.happen (sound : Sound log) (occasion : Occasion) : Sound (log.happen occasion) := by
  cases occasion with
  | start page => exact sound.start page
  | turn answer =>
    rw [Log.happen]
    by_cases active : log.transfer.active = true
    · rw [if_pos active, advance]
      by_cases idle : log.transfer.idle = true
      · rw [if_pos idle]
        exact sound.wait active
      rw [if_neg idle]
      obtain ⟨marks, transfer, _ | _⟩ := log
      · exact sound.read active answer
      · exact sound.store active
    · rw [if_neg active]
      exact sound.pass (Bool.eq_false_iff.2 active)

/-- The log of all occasions from power-on is sound. -/
theorem sound_of (odd : Bool) (occasions : List Occasion) : Sound (Log.of odd occasions) := by
  have start : Sound ⟨[], .powerOn, odd⟩ :=
    ⟨fun _ => rfl, fun active => absurd active Bool.noConfusion,
      fun active => absurd active Bool.noConfusion, ⟨0, Nat.zero_le _, rfl⟩,
      fun busy => absurd busy Bool.noConfusion⟩
  rw [Log.of]
  generalize (⟨[], .powerOn, odd⟩ : Log) = log at start ⊢
  induction occasions generalizing log with
  | nil => exact start
  | cons occasion occasions ih => exact ih _ (start.happen occasion)

/-- A store is made by a working engine in an odd turn, of the byte that it holds at its cursor. -/
theorem stored_of_happen {occasion : Occasion} {index value : UInt8}
    (stores : (log.happen occasion).marks = log.marks ++ [.stored index value]) :
    log.transfer.active = true ∧ log.transfer.idle = false ∧ log.odd = true ∧
      index = log.transfer.cursor ∧ value = log.transfer.latch := by
  cases occasion with
  | start page => cases List.append_cancel_left stores
  | turn answer =>
    rw [Log.happen] at stores
    by_cases active : log.transfer.active = true
    · rw [if_pos active, advance] at stores
      by_cases idle : log.transfer.idle = true
      · rw [if_pos idle] at stores
        cases List.append_cancel_left stores
      rw [if_neg idle] at stores
      obtain ⟨marks, transfer, _ | _⟩ := log
      · cases List.append_cancel_left stores
      · cases List.append_cancel_left stores
        exact ⟨active, Bool.eq_false_iff.2 idle, rfl, rfl, rfl⟩
    · rw [if_neg active] at stores
      exact absurd (List.self_eq_append_right.1 stores) (List.cons_ne_nil _ _)

end Steps

/-- After a read and some starts, the address of the read is the one of the index that is to be
stored next just if there was no start, or if there was nothing stored before the read and the page
is the same. -/
theorem belongs_iff {earlier : List Mark} {address : UInt16} {value : UInt8} {starts : List UInt8}
    {read page : UInt8} (reading : (Since.of earlier).page? = some read)
    (inside : (Since.of earlier).stored.length < 256)
    (place : address.toNat = 256 * read.toNat + (Since.of earlier).stored.length)
    {marks : List Mark} (split : marks = earlier ++ .read address value :: starts.map .started)
    (latest : (Since.of marks).page? = some page) :
    address.toNat = 256 * page.toNat + (Since.of marks).stored.length ↔
      starts = [] ∨ (Since.of earlier).stored = [] ∧ read = page := by
  have noted : Since.of (earlier ++ [.read address value]) = Since.of earlier :=
    Since.of_concat _ _
  rw [← List.singleton_append, ← List.append_assoc] at split
  by_cases none : starts = []
  · rw [none, List.map_nil, List.append_nil] at split
    rw [split, noted] at latest ⊢
    obtain rfl := Option.some.inj (reading.symm.trans latest)
    exact iff_of_true place (.inl none)
  · have nothing : (Since.of marks).stored = [] := by
      rw [split]
      exact Since.of_starts _ none
    rw [or_iff_right none, nothing, List.length_nil, ← List.length_eq_zero_iff,
      ← UInt8.toNat_inj, place]
    omega

/-- Whatever starts and turns there are from power-on, the indexes stored since the latest start are
0, 1, 2 and so on in order. A store carries the byte of the read that is the latest turn before it.
That read went to the next address of the page whose transfer was under way then. This is the
address that belongs to the store, the one of its index in the page of the latest start, just if no
start came between the two, or if nothing had been stored yet and the page is the same. -/
theorem stores_of_occasions (odd : Bool) (occasions : List Occasion) :
    let log := Log.of odd occasions
    (∃ count ≤ 256, (Since.of log.marks).stored = (List.range count).map Nat.toUInt8) ∧
    ∀ (occasion : Occasion) (index value : UInt8),
      (log.happen occasion).marks = log.marks ++ [.stored index value] →
      ∃ (earlier : List Mark) (address : UInt16) (read : UInt8) (starts : List UInt8)
        (page : UInt8),
        log.marks = earlier ++ .read address value :: starts.map .started ∧
        (Since.of earlier).page? = some read ∧
        address.toNat = 256 * read.toNat + (Since.of earlier).stored.length ∧
        (Since.of log.marks).page? = some page ∧
        index.toNat = (Since.of log.marks).stored.length ∧
        (address.toNat = 256 * page.toNat + index.toNat ↔
          starts = [] ∨ (Since.of earlier).stored = [] ∧ read = page) := by
  intro log
  have sound : Sound log := sound_of odd occasions
  refine ⟨sound.inOrder, ?_⟩
  intro occasion index value stores
  obtain ⟨active, busy, now, rfl, rfl⟩ := stored_of_happen stores
  obtain ⟨earlier, address, read, starts, split, reading, inside, place⟩ := sound.holds busy now
  have latest := sound.page active
  have count := sound.cursor active
  have belongs := belongs_iff reading inside place split latest
  rw [count] at belongs
  exact ⟨earlier, address, read, starts, log.transfer.page, split, reading, place, latest,
    count.symm, belongs⟩

/-- A transfer of page 3 is started between the first read of page 2 and its store. -/
def startedBetween : List Occasion := [.start 2, .turn 0, .turn 0x55, .start 3]

/-- The byte of page 2 is stored at the start of sprite memory all the same. -/
theorem stores_of_occasions_startedBetween :
    let log := Log.of true startedBetween
    (log.happen (.turn 0x77)).marks = log.marks ++ [.stored 0 0x55] ∧
      (Since.of log.marks).page? = some 3 ∧
      ∃ (earlier : List Mark) (starts : List UInt8),
        log.marks = earlier ++ .read 0x0200 0x55 :: starts.map .started := by
  intro log
  have noted : log.marks = [.started 2, .waited, .read 0x0200 0x55, .started 3] := by decide
  have stores : (log.happen (.turn 0x77)).marks = log.marks ++ [.stored 0 0x55] := by decide
  obtain ⟨earlier, address, read, starts, page, marks, -⟩ :=
    (stores_of_occasions true startedBetween).2 _ _ _ stores
  have inside : Mark.read address 0x55 ∈ log.marks := by
    rw [marks]
    exact List.mem_append_right _ List.mem_cons_self
  obtain rfl : address = 0x0200 := by simpa [noted] using inside
  exact ⟨stores, by decide, earlier, starts, marks⟩

end Nes.OamTransfer
