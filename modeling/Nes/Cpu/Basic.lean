import Nes.Cpu.AddressSpace
import Nes.Cpu.Effect
import Nes.SaveState.Layout

/-!
# The processor

A processor is its registers and the bookkeeping of the instruction in flight. An instruction
does all its work in its first cycle; the cycles that it has left are only counted, so between
two instructions nothing but the count differs.
-/
namespace Nes

/-- A processor with the instruction that it carries out. -/
structure Cpu where
  /-- What a program sees. -/
  registers : Cpu.Registers
  /-- The latest opcode. -/
  opcode : UInt8
  /-- The effective address found last. -/
  address : UInt16
  /-- The branch distance found last. -/
  distance : UInt16
  /-- Cycles that the instruction still takes. -/
  cycles : UInt8
  /-- The operand found last. -/
  operand : UInt8
deriving DecidableEq

namespace Cpu

/-- A processor before its first reset. -/
def powerOn : Cpu := ⟨Registers.powerOn, 0, 0, 0, 0, 0⟩

/-- Whether the latest instruction has used up its cycles. -/
@[inline] def complete (cpu : Cpu) : Bool := cpu.cycles == 0

/-- Replace the registers. -/
@[inline] def withRegisters (cpu : Cpu) (registers : Registers) : Cpu := { cpu with registers }

/-- The flag byte that is stored for a status. -/
def statusCodec : SaveState.Codec Status :=
  SaveState.Codec.byte.map Status.ofByte Status.toByte

open SaveState in
/-- The stored form of a processor. -/
def layout : Layout Cpu := [
  ⟨.byte, (·.registers.a), fun value cpu =>
    cpu.withRegisters { cpu.registers with a := value }⟩,
  ⟨.byte, (·.registers.x), fun value cpu =>
    cpu.withRegisters { cpu.registers with x := value }⟩,
  ⟨.byte, (·.registers.y), fun value cpu =>
    cpu.withRegisters { cpu.registers with y := value }⟩,
  ⟨.byte, (·.registers.sp), fun value cpu =>
    cpu.withRegisters { cpu.registers with sp := value }⟩,
  ⟨.word, (·.registers.pc), fun value cpu =>
    cpu.withRegisters { cpu.registers with pc := value }⟩,
  ⟨statusCodec, (·.registers.status), fun value cpu =>
    cpu.withRegisters { cpu.registers with status := value }⟩,
  ⟨.byte, (·.opcode), fun value cpu => { cpu with opcode := value }⟩,
  ⟨.word, (·.address), fun value cpu => { cpu with address := value }⟩,
  ⟨.word, (·.distance), fun value cpu => { cpu with distance := value }⟩,
  ⟨.byte, (·.cycles), fun value cpu => { cpu with cycles := value }⟩,
  ⟨.byte, (·.operand), fun value cpu => { cpu with operand := value }⟩]

end Cpu

end Nes
