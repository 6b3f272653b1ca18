import Nes.Proofs.Console.Reachable
import Nes.Proofs.Machine.SpriteTransfer

/-!
# A page of sprites

A write to `4014` on a reachable console that transfers nothing moves a page into sprite memory.
The transfer engine has every turn of the processor until then, and what it reads in a turn is what
sprite memory holds at the end, whatever interrupts come and whatever the reads change.
-/
namespace Nes

/-- The address that the transfer engine reads in a turn, and the byte that it is given. -/
def Turn.reading? : Turn → Option (UInt16 × UInt8)
  | .read address value => some (address, value)
  | _ => none

namespace Machine

/-- The addresses of a page are in order. -/
theorem wordOf_page (page : UInt8) {index : Nat} (inside : index < 256) :
    wordOf index.toUInt8 page = (256 * page.toNat + index).toUInt16 := by
  have pageBound := page.toNat_lt
  apply UInt16.toNat_inj.1
  rw [toNat_wordOf]
  change 256 * page.toNat + index % 2 ^ 8 = (256 * page.toNat + index) % 2 ^ 16
  omega

/-- Moving bytes of a page reads them in order, each once. -/
theorem readings_pageTurns (page : UInt8) {values : List UInt8} (inside : values.length ≤ 256) :
    (pageTurns page values).filterMap Turn.reading?
      = values.zipIdx.map fun (value, index) => ((256 * page.toNat + index).toUInt16, value) := by
  have each : (pageTurns page values).filterMap Turn.reading?
      = values.zipIdx.map fun (value, index) => (wordOf index.toUInt8 page, value) := by
    rw [pageTurns, List.filterMap_flatMap, List.map_eq_flatMap]
    rfl
  rw [each]
  apply List.map_congr_left
  rintro ⟨value, index⟩ member
  have bound : index < values.length := List.snd_lt_of_mem_zipIdx member
  exact congrArg (·, value) (wordOf_page page (by omega))

/-- No turn of the engine is one of the processor. -/
theorem step_not_mem_pageTurns (page : UInt8) (values : List UInt8) :
    Turn.step ∉ pageTurns page values := by
  simp [pageTurns]

end Machine

namespace Console

/-- The machine after the bus is told to transfer a page. -/
def startTransfer (console : Console) (page : UInt8) : Machine :=
  (console.machine.act (.write 0x4014 page)).2

/-- A reachable console that transfers nothing moves a page into sprite memory after a write to
`4014`. From its first turn on, the transfer takes 513 turns if the count of ticks is odd there, and
514 if it is even. None of them is a cycle of the processor, the reads are those of the page in
order, and at the end sprite memory holds the bytes that were read. -/
theorem transfer_page {console : Console} (reachable : console.Reachable)
    (free : console.machine.bus.transferring = false) (page : UInt8) :
    ∃ (first count : Nat) (values : List UInt8),
      (console.startTransfer page).turns first = [] ∧
      ((console.startTransfer page).ticked first).turnTaken?.isSome = true ∧
      (∀ earlier < count,
        ((console.startTransfer page).ticked earlier).bus.transferring = true) ∧
      ((console.startTransfer page).ticked count).bus.transferring = false ∧
      ((console.startTransfer page).turns count).length
        = (if ((console.startTransfer page).ticked first).bus.ticks % 2 = 1 then 513 else 514) ∧
      Turn.step ∉ (console.startTransfer page).turns count ∧
      values.length = 256 ∧
      ((console.startTransfer page).turns count).filterMap Turn.reading?
        = values.zipIdx.map (fun (value, index) =>
            ((256 * page.toNat + index).toUInt16, value)) ∧
      ∀ (index : Nat) (moved : index < values.length),
        ((console.startTransfer page).ticked count).bus.ppu.oam.read index = values[index] := by
  have waiting := reachable.sound.ready free
  have started : (console.startTransfer page).bus.transfer
      = console.machine.bus.transfer.start page := by
    change (console.machine.bus.write 0x4014 page).transfer = _
    rw [Bus.write_transfer]
  -- from here on only the engine of the started machine matters, not how it was reached
  generalize console.startTransfer page = machine at started ⊢
  generalize console.machine.bus.transfer = transfer at started waiting
  have begins : machine.At (transfer.start page) machine.bus.ppu.oam
      (Machine.nextTurnOdd machine.bus.ticks) := ⟨started, rfl, rfl⟩
  obtain ⟨first, spent, quiet, taken⟩ := machine.exists_next_turn
  obtain ⟨-, still⟩ := begins.until_turn rfl quiet
  have turn : (machine.ticked first).bus.ticks.toNat % 3 = 0 := by
    apply (machine.ticked first).turnTaken?_isSome_iff.1
    rw [taken]
    rfl
  have parity := (Machine.nextTurnOdd_here turn).symm.trans still.odd
  obtain ⟨last, values, length, ⟨count, rfl, turns, during⟩, stopped, held⟩ :=
    begins.page rfl waiting rfl
  rw [← parity] at turns
  simp only [beq_iff_eq] at turns
  have here := Option.isSome_of_eq_some taken
  refine ⟨first, count, values, quiet, here, during, stopped, ?_, ?_, length, ?_, held⟩
  · rw [turns, List.length_append, List.length_replicate, Machine.length_pageTurns, length]
    split <;> rfl
  · rw [turns, List.mem_append, not_or]
    exact ⟨by simp, Machine.step_not_mem_pageTurns _ _⟩
  · rw [turns, List.filterMap_append, List.filterMap_replicate_of_none rfl, List.nil_append]
    exact Machine.readings_pageTurns page (by omega)

/-- Right after a reset the count is even in the first turn, so a transfer takes 514 turns. -/
theorem transfer_page_of_insert :
    ∃ count : Nat, (((powerOn.insert .bareMmc3).startTransfer 2).turns count).length = 514 ∧
      (((powerOn.insert .bareMmc3).startTransfer 2).ticked count).bus.transferring = false := by
  have reachable := Reachable.powerOn.insert Cartridge.accepted_bareMmc3
  obtain ⟨first, count, values, quiet, -, -, stopped, length, -⟩ :=
    transfer_page reachable rfl 2
  have counted : ((powerOn.insert .bareMmc3).startTransfer 2).bus.ticks = 0 := by
    change ((powerOn.insert .bareMmc3).machine.bus.write 0x4014 2).ticks = 0
    rw [Bus.write_transfer]
    exact Machine.ticks_reset ⟨.powerOn, Bus.powerOn.insert .bareMmc3⟩
  have now : first = 0 := by
    rcases first with _ | first
    · rfl
    · have none := Option.toList_eq_nil_iff.1 (List.append_eq_nil_iff.1 quiet).1
      have some := (Machine.turnTaken?_isSome_iff _).2 (congrArg (·.toNat % 3) counted)
      rw [none] at some
      cases some
  subst now
  have even : ¬((powerOn.insert .bareMmc3).startTransfer 2).bus.ticks % 2 = 1 := by
    rw [counted]
    decide
  exact ⟨count, length.trans (if_neg even), stopped⟩

end Console

end Nes
