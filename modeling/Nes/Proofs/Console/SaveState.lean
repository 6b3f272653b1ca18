import Nes.Proofs.Console.Reachable

/-!
# Save states are complete

The state of a reachable console with a cartridge restores it over any other console. The restored
machine can not be told from the saved one afterwards: not by the processor, not by what the bus
reads, and not by a state saved later.
-/
namespace Nes.Console

/-- Loading the state of a reachable console with a cartridge into any other console succeeds, and
saving the result gives the loaded bytes again. Under any later actions both machines have the same
processor, read the same bytes and save the same states, and they draw the same pixels if both
draw or neither does. -/
theorem restore_encode_replays {console : Console} (reachable : console.Reachable)
    {cartridge : Cartridge} (inserted : console.machine.bus.slot = some cartridge)
    (other : Console) :
    ∃ bytes restored, console.machine.encode = .ok bytes ∧ other.restore bytes = .ok restored ∧
      restored.machine.encode = .ok bytes ∧
      ∀ actions : List Machine.Action,
        (restored.machine.after actions).cpu = (console.machine.after actions).cpu ∧
        (restored.machine.after actions).encode = (console.machine.after actions).encode ∧
        restored.machine.bytesRead actions = console.machine.bytesRead actions ∧
        (other.machine.bus.ppu.drawsFrame = console.machine.bus.ppu.drawsFrame →
          restored.machine.pixelsDrawn actions = console.machine.pixelsDrawn actions) := by
  have sound := reachable.sound
  have stored := Machine.encode_of_cartridge inserted
  have path := Machine.storedPath_restoredGuise inserted other.machine
  have restores := Machine.restore_encode sound inserted stored other.machine
  have own := console.machine.inGuise_guise
  -- what comes back is the saved machine with the label and the drawing choice of the other one
  let guise := Machine.restoredGuise cartridge other.machine
  refine ⟨_, ⟨console.machine.inGuise guise, other.screen⟩, stored, ?_, ?_, ?_⟩
  · rw [restore_eq, restores]
    rfl
  · exact (Machine.encode_inGuise own path).trans stored
  · intro actions
    have after := console.machine.after_inGuise guise actions
    dsimp only
    rw [after]
    refine ⟨rfl, ?_, console.machine.bytesRead_inGuise guise actions, ?_⟩
    · exact Machine.encode_inGuise (Machine.after_wears own actions) path
    · intro same
      exact console.machine.pixelsDrawn_inGuise same actions

/-- A board of kind 4 right after its insertion is restored over a console without a cartridge. -/
theorem restore_encode_replays_of_bareMmc3 :
    ∃ bytes restored, (powerOn.insert .bareMmc3).machine.encode = .ok bytes ∧
      powerOn.restore bytes = .ok restored ∧ restored.machine.encode = .ok bytes := by
  have reachable := Reachable.powerOn.insert Cartridge.accepted_bareMmc3
  have inserted := powerOn.machine.slot_insert .bareMmc3
  obtain ⟨bytes, restored, stored, read, again, -⟩ :=
    restore_encode_replays reachable inserted powerOn
  exact ⟨bytes, restored, stored, read, again⟩

end Nes.Console
