import Nes.Proofs.Machine.Use

/-!
# Stored machines

The bytes of a sound machine restore it over any other machine, whatever cartridge that has
(`Machine.decode_encode`). What comes back is the stored machine in another guise, and the bytes of
a machine do not depend on its guise, as long as the label keeps the path
(`Machine.encode_inGuise`).
-/
namespace Nes

/-- Reads leave the cartridge alone. -/
theorem Bus.slot_invariant (slot : Option Cartridge) :
    Cpu.Invariant (fun bus : Bus => bus.slot = slot) fun _ => False where
  read {space} address same := by
    have effect := space.readEffect_read address
    change (space.read address).2.slot = slot
    generalize (space.read address).2 = after at effect ⊢
    cases effect <;> exact same
  write _ _ impossible := impossible.elim

namespace Machine

open SaveState

/-- A reset resets the cartridge and leaves it in the slot. -/
theorem slot_reset (machine : Machine) :
    machine.reset.bus.slot = machine.bus.slot.map Cartridge.reset := by
  have kept := (Bus.slot_invariant _).reset
    (show Bus.slot { machine.bus with slot := machine.bus.slot.map Cartridge.reset } = _ from rfl)
    machine.cpu
  exact kept

/-- After an insertion the cartridge is in the slot, reset. -/
theorem slot_insert (machine : Machine) (cartridge : Cartridge) :
    (machine.insert cartridge).bus.slot = some cartridge.reset :=
  slot_reset ⟨machine.cpu, machine.bus.insert cartridge⟩

/-- The guise of a machine with a cartridge that is restored over another machine. -/
def restoredGuise (cartridge : Cartridge) (other : Machine) : Guise where
  label := cartridge.restoredLabel (other.bus.slot.getD .blank)
  draws := other.bus.ppu.drawsFrame

/-- A machine with a cartridge has bytes. -/
theorem encode_of_cartridge {machine : Machine} {cartridge : Cartridge}
    (inserted : machine.bus.slot = some cartridge) :
    machine.encode
      = .ok (Bus.layout.encode machine.bus ++ Cpu.layout.encode machine.cpu
        ++ Ppu.layout.encode machine.bus.ppu ++ cartridge.encode) := by
  rw [encode, inserted]

/-- A sound machine is read back from its bytes over any other machine. -/
theorem decode_encode {machine : Machine} (sound : machine.bus.Sound) {cartridge : Cartridge}
    (inserted : machine.bus.slot = some cartridge) {bytes : List UInt8}
    (stored : machine.encode = .ok bytes) (other : Machine) (suffix : List UInt8) :
    other.decode (bytes ++ suffix)
      = (.ok (machine.inGuise (restoredGuise cartridge other)), suffix) := by
  have storable := sound.slot cartridge inserted
  rw [encode_of_cartridge inserted] at stored
  obtain rfl := Except.ok.inj stored
  have bus := Layout.decode_encode (Bus.layout_lawfulAt machine.bus) other.bus
    (Cpu.layout.encode machine.cpu ++ (Ppu.layout.encode machine.bus.ppu
      ++ (cartridge.encode ++ suffix)))
  have cpu := Layout.decode_encode (Cpu.layout_lawfulAt machine.cpu) other.cpu
    (Ppu.layout.encode machine.bus.ppu ++ (cartridge.encode ++ suffix))
  have ppu := Layout.decode_encode (Ppu.layout_lawfulAt sound.status) other.bus.ppu
    (cartridge.encode ++ suffix)
  have slot := Cartridge.decode_encode storable (other.bus.slot.getD .blank) suffix
  rw [Bus.layout_copy] at bus
  rw [Cpu.layout_copy] at cpu
  rw [Ppu.layout_copy] at ppu
  simp only [decode, List.append_assoc, bus, cpu, ppu, slot, Outcome.andThen_ok, Outcome.map_ok]
  obtain ⟨cpu, ram, ppu, controller0, controller1, here, ticks, transfer⟩ := machine
  obtain rfl : here = some cartridge := inserted
  rfl

/-- A machine is restored from its own bytes over any other machine. -/
theorem restore_encode {machine : Machine} (sound : machine.bus.Sound) {cartridge : Cartridge}
    (inserted : machine.bus.slot = some cartridge) {bytes : List UInt8}
    (stored : machine.encode = .ok bytes) (other : Machine) :
    other.restore bytes = .ok (machine.inGuise (restoredGuise cartridge other)) := by
  have whole := decode_encode sound inserted stored other []
  rw [List.append_nil] at whole
  rw [restore, whole]

/-- The bytes of a machine do not depend on its guise, as long as the label keeps the path. -/
theorem encode_inGuise {machine : Machine} {own guise : Guise}
    (wears : machine.inGuise own = machine)
    (same : guise.label.storedPath = own.label.storedPath) :
    (machine.inGuise guise).encode = machine.encode := by
  obtain ⟨cpu, ram, ppu, controller0, controller1, _ | cartridge, ticks, transfer⟩ := machine
  · rfl
  · have worn : cartridge.withLabel own.label = cartridge := by
      have slots := congrArg (fun machine => machine.bus.slot) wears
      exact Option.some.inj slots
    have label : cartridge.label = own.label := by
      rw [← worn]
      rfl
    have bytes : (cartridge.withLabel guise.label).encode = cartridge.encode :=
      cartridge.encode_withLabel (same.trans (congrArg Cartridge.Label.storedPath label).symm)
    change Except.ok (_ ++ (cartridge.withLabel guise.label).encode) = Except.ok (_ ++ _)
    rw [bytes]
    rfl

/-- The guise of a restored machine keeps the path. -/
theorem storedPath_restoredGuise {machine : Machine} {cartridge : Cartridge}
    (inserted : machine.bus.slot = some cartridge) (other : Machine) :
    (restoredGuise cartridge other).label.storedPath = machine.guise.label.storedPath := by
  rw [guise, inserted]
  exact Cartridge.storedPath_restoredLabel cartridge _

/-- A machine is as sound as its state in any guise with its path. -/
theorem sound_inGuise {machine : Machine} (sound : machine.bus.Sound) {guise : Guise}
    (same : guise.label.storedPath = machine.guise.label.storedPath) :
    (machine.inGuise guise).bus.Sound := by
  refine ⟨?_, sound.status, sound.ready⟩
  intro cartridge here
  obtain ⟨plain, found, rfl⟩ := Option.map_eq_some_iff.1 here
  have storable := sound.slot plain found
  refine ⟨storable.board, ?_, storable.program_lt, storable.character_lt⟩
  have kept : guise.label.storedPath = plain.label.storedPath := by
    rw [same, Machine.guise, found]
    rfl
  have length := congrArg List.length kept
  have short := storable.path_lt
  change guise.label.storedPath.length < UInt32.size
  rw [length]
  exact short

end Machine

end Nes
