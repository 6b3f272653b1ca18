import Nes.Proofs.Console.Reachable
import Nes.Proofs.Machine.Truncated

/-!
# Cut states

A state that is cut anywhere is refused as truncated, and the console that it was to replace stays
as it was: the readers are stable, and a state is read back to its end. Bytes behind a state are
not read.
-/
namespace Nes.Console

open SaveState

/-- A restored machine takes the place of the one before it, and the screen stays. -/
theorem tryRestore_of_decode {console : Console} {bytes rest : List UInt8} {machine : Machine}
    (read : console.machine.decode bytes = (.ok machine, rest)) :
    console.tryRestore bytes = (none, ⟨machine, console.screen⟩) := by
  simp only [tryRestore, Machine.restore, read]

/-- A console is not changed by bytes that its reader runs short of. -/
theorem tryRestore_of_ranShort {console : Console} {bytes : List UInt8}
    (ranShort : (console.machine.decode bytes).RanShort) :
    ∃ needed remaining, remaining < needed ∧
      console.tryRestore bytes = (some (.truncated needed remaining), console) := by
  obtain ⟨needed, remaining, failed, short⟩ := ranShort
  refine ⟨needed, remaining, short, ?_⟩
  simp only [tryRestore, Machine.restore, failed]

/-- Let the state of a reachable console with a cartridge be offered to any other console. Every
strict prefix of it is refused as truncated and changes nothing. The state itself is restored to
one console whatever bytes stand behind it, and those bytes are left. The bytes of the cartridge
alone are read in place of any other cartridge under the same two laws. -/
theorem tryRestore_of_cut {console : Console} (reachable : console.Reachable)
    {cartridge : Cartridge} (inserted : console.machine.bus.slot = some cartridge)
    (other : Console) :
    ∃ bytes restored, console.machine.encode = .ok bytes ∧
      (∀ front, front <+: bytes → front ≠ bytes →
        ∃ needed remaining, remaining < needed ∧
          other.tryRestore front = (some (.truncated needed remaining), other)) ∧
      (∀ more, other.machine.decode (bytes ++ more) = (.ok restored.machine, more) ∧
        other.tryRestore (bytes ++ more) = (none, restored)) ∧
      ∀ target : Cartridge, ∃ read,
        (∀ front, front <+: cartridge.encode → front ≠ cartridge.encode →
          (target.decode front).RanShort) ∧
        ∀ more, target.decode (cartridge.encode ++ more) = (.ok read, more) := by
  have sound := reachable.sound
  have stored := Machine.encode_of_cartridge inserted
  have decodes := Machine.decode_encode sound inserted stored other.machine
  have whole := decodes []
  rw [List.append_nil] at whole
  let restored := console.machine.inGuise (Machine.restoredGuise cartridge other.machine)
  refine ⟨_, ⟨restored, other.screen⟩, stored, ?_, ?_, ?_⟩
  · intro front cut less
    exact tryRestore_of_ranShort (other.machine.decode_stable.ranShort_of_cut whole cut less)
  · intro more
    exact ⟨decodes more, tryRestore_of_decode (decodes more)⟩
  · intro target
    have reads := Cartridge.decode_encode (sound.slot cartridge inserted) target
    have alone := reads []
    rw [List.append_nil] at alone
    refine ⟨_, ?_, reads⟩
    intro front cut less
    exact target.decode_stable.ranShort_of_cut alone cut less

/-- The state of a board of kind 4 right after its insertion is refused by a console at power-on if
its last byte is missing. -/
theorem tryRestore_of_cut_bareMmc3 :
    ∃ bytes, (powerOn.insert .bareMmc3).machine.encode = .ok bytes ∧ bytes.dropLast ≠ bytes ∧
      ∃ needed remaining, remaining < needed ∧
        powerOn.tryRestore bytes.dropLast = (some (.truncated needed remaining), powerOn) := by
  have reachable := Reachable.powerOn.insert Cartridge.accepted_bareMmc3
  have inserted := powerOn.machine.slot_insert .bareMmc3
  obtain ⟨bytes, restored, stored, cuts, -, -⟩ := tryRestore_of_cut reachable inserted powerOn
  have filled : bytes ≠ [] := by
    rintro rfl
    have written := (Machine.encode_of_cartridge inserted).symm.trans stored
    have empty := (List.append_eq_nil_iff.1 (Except.ok.inj written)).2
    exact absurd empty (List.cons_ne_nil _ _)
  have less : bytes.dropLast ≠ bytes := by
    intro same
    have length := congrArg List.length same
    have positive := List.length_pos_iff.2 filled
    rw [List.length_dropLast] at length
    omega
  exact ⟨bytes, stored, less, cuts _ bytes.dropLast_prefix less⟩

end Nes.Console
