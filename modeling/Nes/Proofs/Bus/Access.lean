import Nes.Bus
import Nes.Proofs.Cpu.Simulation
import Nes.Proofs.Ppu.Registers

/-!
# What a bus access can do

A read changes at most one part of the bus (`Bus.ReadEffect`), and so does a write once the
cartridge has seen it (`Bus.WriteEffect`). Everything that accesses keep is derived from these two
lists. Boards claim nothing below `6000`, so accesses to work memory and the start of a transfer
are what the bus alone makes of them, and they claim all reads from `8000` on, where programs lie.
-/
namespace Nes

/-- Every board claims reads of program memory. -/
theorem Board.readTarget_of_program (board : Board) {address : UInt16}
    (program : inProgramSpace address = true) :
    ∃ target, board.readTarget address = some target := by
  have notMemory := inBoardMemory_of_program program
  cases board with
  | mmc1 board =>
    change ∃ target, board.readTarget address = some target
    rw [Mmc1.readTarget, if_neg (Bool.eq_false_iff.1 notMemory), if_pos program]
    split
    · exact ⟨_, rfl⟩
    · exact ⟨_, rfl⟩
  | _ =>
    simp [readTarget, Nrom.readTarget, Uxrom.readTarget, Cnrom.readTarget, Mmc3.readTarget,
      Gxrom.readTarget, program, notMemory]

/-- Every cartridge answers reads of program memory. -/
theorem Cartridge.read_of_program (cartridge : Cartridge) {address : UInt16}
    (program : inProgramSpace address = true) : ∃ value, cartridge.read address = some value := by
  obtain ⟨target, reached⟩ := cartridge.board.readTarget_of_program program
  rw [read, reached]
  cases target with
  | program offset => exact ⟨_, rfl⟩
  | value byte => exact ⟨_, rfl⟩

/-- Below `6000` there is neither program memory nor memory of a board. -/
theorem beyond_of_low {address : UInt16} (low : address < 0x6000) :
    inProgramSpace address = false ∧ inBoardMemory address = false := by
  have below : address.toNat < 0x6000 := UInt16.lt_iff_toNat_lt.1 low
  constructor
  · apply decide_eq_false
    intro high
    have bound : 0x8000 ≤ address.toNat := UInt16.le_iff_toNat_le.1 high
    omega
  · rw [inBoardMemory, decide_eq_false (UInt16.not_le.2 low)]
    rfl

/-- No board answers reads below `6000`. -/
theorem Board.readTarget_of_low (board : Board) {address : UInt16} (low : address < 0x6000) :
    board.readTarget address = none := by
  obtain ⟨notProgram, notMemory⟩ := beyond_of_low low
  cases board <;>
    simp [readTarget, Nrom.readTarget, Mmc1.readTarget, Uxrom.readTarget, Cnrom.readTarget,
      Mmc3.readTarget, Gxrom.readTarget, notProgram, notMemory]

/-- A cartridge lets reads below `6000` pass. -/
theorem Cartridge.read_of_low (cartridge : Cartridge) {address : UInt16}
    (low : address < 0x6000) : cartridge.read address = none := by
  rw [read, cartridge.board.readTarget_of_low low]

/-- No board has memory or registers for writes below `6000`. -/
theorem Board.write_of_low (board : Board) {address : UInt16} (low : address < 0x6000)
    (value : UInt8) : board.write address value = (none, board) := by
  obtain ⟨notProgram, notMemory⟩ := beyond_of_low low
  cases board <;>
    simp [write, Nrom.write, Mmc1.write, Uxrom.write, Cnrom.write, Mmc3.write, Gxrom.write,
      notProgram, notMemory]

/-- A cartridge lets writes below `6000` pass. -/
theorem Cartridge.write_of_low (cartridge : Cartridge) {address : UInt16}
    (low : address < 0x6000) (value : UInt8) :
    cartridge.write address value = (false, cartridge) := by
  rw [write, cartridge.board.write_of_low low]

namespace Bus

/-- What a read can make of the bus. -/
inductive ReadEffect (bus : Bus) : Bus → Prop where
  /-- The bus stays as it is. -/
  | nothing : ReadEffect bus bus
  /-- A register of the picture chip is read. -/
  | register (address : UInt16) :
    ReadEffect bus { bus with ppu := (bus.ppu.readRegister bus.slot address).2 }
  /-- The first controller shifts. -/
  | controller0 : ReadEffect bus { bus with controller0 := bus.controller0.read.2 }
  /-- The second controller shifts. -/
  | controller1 : ReadEffect bus { bus with controller1 := bus.controller1.read.2 }

/-- A read changes at most one part of the bus. -/
theorem readEffect_read (bus : Bus) (address : UInt16) : ReadEffect bus (bus.read address).2 := by
  rw [read]
  split
  · exact .nothing
  · simp only [readUnclaimed]
    split
    · exact .nothing
    split
    · exact .register address
    split
    · exact .controller0
    split
    · exact .controller1
    · exact .nothing

/-- What a write of a value can make of the bus. -/
inductive WriteEffect (bus : Bus) (value : UInt8) : Bus → Prop where
  /-- The bus stays as it is. -/
  | nothing : WriteEffect bus value bus
  /-- Work memory takes the value. -/
  | ram (address : UInt16) :
    WriteEffect bus value { bus with ram := bus.ram.write address.toNat value }
  /-- A register of the picture chip takes the value. -/
  | register (address : UInt16) :
    WriteEffect bus value { bus with
      ppu := (bus.ppu.writeRegister bus.slot address value).1
      slot := (bus.ppu.writeRegister bus.slot address value).2 }
  /-- A transfer into sprite memory starts. -/
  | transfer : WriteEffect bus value { bus with transfer := bus.transfer.start value }
  /-- The first controller is latched. -/
  | controller0 : WriteEffect bus value { bus with controller0 := bus.controller0.latch }
  /-- The second controller is latched. -/
  | controller1 : WriteEffect bus value { bus with controller1 := bus.controller1.latch }

/-- A read that the cartridge answers leaves the bus alone. -/
theorem read_of_claimed (bus : Bus) {address : UInt16} {value : UInt8}
    (claimed : bus.slot.bind (·.read address) = some value) : bus.read address = (value, bus) := by
  rw [read, claimed]

/-- A read below `6000` is one that the cartridge does not claim. -/
theorem read_of_low (bus : Bus) {address : UInt16} (low : address < 0x6000) :
    bus.read address = bus.readUnclaimed address := by
  have passed : bus.slot.bind (·.read address) = none := by
    cases bus.slot
    case none => rfl
    case some cartridge => exact cartridge.read_of_low low
  rw [read, passed]

/-- A write that the cartridge does not claim changes at most one part of the bus. -/
theorem writeEffect_writeUnclaimed (bus : Bus) (address : UInt16) (value : UInt8) :
    WriteEffect bus value (bus.writeUnclaimed address value) := by
  simp only [writeUnclaimed]
  split
  · exact .ram address
  split
  · exact .register address
  split
  · exact .transfer
  split
  · exact .controller0
  split
  · exact .controller1
  · exact .nothing

/-- The bus after the cartridge has seen a write. -/
def offer (bus : Bus) (address : UInt16) (value : UInt8) : Bus :=
  { bus with slot := bus.slot.map fun cartridge => (cartridge.write address value).2 }

/-- A write changes at most one part of the bus once the cartridge has seen it. -/
theorem writeEffect_write (bus : Bus) (address : UInt16) (value : UInt8) :
    WriteEffect (bus.offer address value) value (bus.write address value) := by
  rcases bus with ⟨ram, ppu, controller0, controller1, _ | cartridge, ticks, transfer⟩
  · exact writeEffect_writeUnclaimed _ address value
  · simp only [write, offer, Option.map_some]
    split
    · exact .nothing
    · exact writeEffect_writeUnclaimed _ address value

/-- A write below `6000` is one that the cartridge does not claim. -/
theorem write_of_low (bus : Bus) {address : UInt16} (low : address < 0x6000) (value : UInt8) :
    bus.write address value = bus.writeUnclaimed address value := by
  rcases bus with ⟨ram, ppu, controller0, controller1, _ | cartridge, ticks, transfer⟩
  · rfl
  · simp only [write, cartridge.write_of_low low]
    rfl

/-- A write below `2000` changes work memory. -/
theorem write_ram (bus : Bus) {address : UInt16} (low : address < 0x2000) (value : UInt8) :
    bus.write address value = { bus with ram := bus.ram.write address.toNat value } := by
  have below : address.toNat < 0x2000 := UInt16.lt_iff_toNat_lt.1 low
  have unclaimed : address < 0x6000 := by
    apply UInt16.lt_iff_toNat_lt.2
    change address.toNat < 0x6000
    omega
  rw [bus.write_of_low unclaimed, writeUnclaimed, if_pos low]

/-- A write where programs lie reaches the cartridge alone. -/
theorem write_of_program {bus : Bus} {cartridge : Cartridge} (found : bus.slot = some cartridge)
    {address : UInt16} (program : inProgramSpace address = true) (value : UInt8) :
    bus.write address value
      = { bus with slot := some (cartridge.write address value).2 } := by
  have high : 0x8000 ≤ address := of_decide_eq_true program
  have beyond {bound : UInt16} (low : bound ≤ 0x8000) : ¬address < bound :=
    UInt16.not_lt.2 (UInt16.le_trans low high)
  have other {named : UInt16} (low : ¬0x8000 ≤ named) : ¬address = named := by
    rintro rfl
    exact low high
  have passed (bus : Bus) : bus.writeUnclaimed address value = bus := by
    rw [writeUnclaimed, if_neg (beyond (by decide)), if_neg (beyond (by decide)),
      if_neg (other (by decide)), if_neg (other (by decide)), if_neg (other (by decide))]
  rw [write, found]
  dsimp only
  split
  · rfl
  · exact passed _

/-- A write to `2001` is one of the mask register. -/
theorem write_mask (bus : Bus) (value : UInt8) :
    bus.write 0x2001 value = { bus with ppu := { bus.ppu with mask := ⟨value⟩ } } := by
  rw [bus.write_of_low (by decide), writeUnclaimed, if_neg (by decide), if_pos (by decide)]
  rfl

/-- A write to `4014` starts a transfer and does nothing else. -/
theorem write_transfer (bus : Bus) (page : UInt8) :
    bus.write 0x4014 page = { bus with transfer := bus.transfer.start page } := by
  rw [bus.write_of_low (by decide)]
  rfl

/-- The stack page lies in work memory. -/
theorem stackAddress_lt (pointer : UInt8) : Cpu.stackAddress pointer < 0x2000 := by
  have bound := pointer.toNat_lt
  apply UInt16.lt_iff_toNat_lt.2
  rw [Cpu.stackAddress, toNat_wordOf]
  change 256 * 1 + pointer.toNat < 0x2000
  omega

end Bus

end Nes
