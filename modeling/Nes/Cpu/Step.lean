import Nes.Cpu.Basic
import Nes.Cpu.OpcodeMatrix

/-!
# Cycles and interrupts

`Cpu.step` is one processor cycle. When no cycle is left over, the next instruction is fetched,
its operand is found and its effect takes place, and the cycles that it takes are counted down
from then on. `Cpu.reset`, `Cpu.irq` and `Cpu.nmi` start the three hardware sequences.
-/
namespace Nes.Cpu

variable {β : Type} [AddressSpace β]

/-- Where execution goes on after a reset is stored here. -/
def resetVector : UInt16 := 0xFFFC

/-- Where execution goes on after a non-maskable interrupt is stored here. -/
def nmiVector : UInt16 := 0xFFFA

/-- Where execution goes on after a maskable or a software interrupt is stored here. -/
def irqVector : UInt16 := 0xFFFE

/-- Read the byte at the program counter and go past it. -/
@[specialize] def fetchByte (cpu : Cpu) (space : β) : UInt8 × Cpu × β :=
  let (value, space) := AddressSpace.read space cpu.registers.pc
  (value, cpu.withRegisters { cpu.registers with pc := cpu.registers.pc + 1 }, space)

/-- Read the word at the program counter and go past it. -/
@[specialize] def fetchWord (cpu : Cpu) (space : β) : UInt16 × Cpu × β :=
  let (low, cpu, space) := cpu.fetchByte space
  let (high, cpu, space) := cpu.fetchByte space
  (wordOf low high, cpu, space)

/-- The address that the stack pointer stands for. -/
@[inline] def stackAddress (pointer : UInt8) : UInt16 := wordOf pointer 0x01

/-- Store a byte at the stack pointer and move the pointer down. -/
@[specialize] def push (cpu : Cpu) (space : β) (value : UInt8) : Cpu × β :=
  let pointer := cpu.registers.sp
  (cpu.withRegisters { cpu.registers with sp := pointer - 1 },
    AddressSpace.write space (stackAddress pointer) value)

/-- Move the stack pointer up and read the byte there. -/
@[specialize] def pull (cpu : Cpu) (space : β) : UInt8 × Cpu × β :=
  let pointer := cpu.registers.sp + 1
  let (value, space) := AddressSpace.read space (stackAddress pointer)
  (value, cpu.withRegisters { cpu.registers with sp := pointer }, space)

/-- Push a word, high byte first. -/
@[specialize] def pushWord (cpu : Cpu) (space : β) (value : UInt16) : Cpu × β :=
  let (cpu, space) := cpu.push space (highByte value)
  cpu.push space (lowByte value)

/-- Pull a word, low byte first. -/
@[specialize] def pullWord (cpu : Cpu) (space : β) : UInt16 × Cpu × β :=
  let (low, cpu, space) := cpu.pull space
  let (high, cpu, space) := cpu.pull space
  (wordOf low high, cpu, space)

/-- Go on at an address. -/
@[inline] def jumpTo (cpu : Cpu) (address : UInt16) : Cpu :=
  cpu.withRegisters { cpu.registers with pc := address }

/-- A found operand: whether indexing left the page of the base address, and what finding it
left behind. -/
structure Found (β : Type) where
  /-- Indexing left the page. -/
  crossed : Bool
  /-- The processor with the operand's place noted. -/
  cpu : Cpu
  /-- The address space after the reads. -/
  space : β

/-- Note an effective address that can not have left its page. -/
@[inline] def foundAt (cpu : Cpu) (space : β) (address : UInt16) : Found β :=
  ⟨false, { cpu with address }, space⟩

/-- Note the effective address `base + index`. -/
@[inline] def foundIndexed (cpu : Cpu) (space : β) (base : UInt16) (index : UInt8) : Found β :=
  let address := base + index.toUInt16
  ⟨!samePage base address, { cpu with address }, space⟩

/-- Read a pointer in page zero; the high byte of a pointer at `FF` is at `00`. -/
@[specialize] def zeroPagePointer (space : β) (pointer : UInt8) : UInt16 × β :=
  let (low, space) := AddressSpace.read space pointer.toUInt16
  let (high, space) := AddressSpace.read space (pointer + 1).toUInt16
  (wordOf low high, space)

/-- Read a pointer anywhere; both bytes lie on one page, so the high byte of a pointer at the end
of a page is at its start. -/
@[specialize] def pagePointer (space : β) (pointer : UInt16) : UInt16 × β :=
  let next := wordOf (lowByte pointer + 1) (highByte pointer)
  let (low, space) := AddressSpace.read space pointer
  let (high, space) := AddressSpace.read space next
  (wordOf low high, space)

/-- Find the operand of the addressing mode, going past its bytes. An immediate operand is not
read here but by the operation itself. -/
@[specialize] def findOperand (mode : AddressingMode) (cpu : Cpu) (space : β) : Found β :=
  match mode with
  | .implied => ⟨false, { cpu with operand := cpu.registers.a }, space⟩
  | .immediate =>
    let pc := cpu.registers.pc
    (cpu.jumpTo (pc + 1)).foundAt space pc
  | .zeroPage =>
    let (page, cpu, space) := cpu.fetchByte space
    cpu.foundAt space page.toUInt16
  | .zeroPageX =>
    let (page, cpu, space) := cpu.fetchByte space
    cpu.foundAt space (page + cpu.registers.x).toUInt16
  | .zeroPageY =>
    let (page, cpu, space) := cpu.fetchByte space
    cpu.foundAt space (page + cpu.registers.y).toUInt16
  | .relative =>
    let (distance, cpu, space) := cpu.fetchByte space
    ⟨false, { cpu with distance := distance.toInt8.toInt16.toUInt16 }, space⟩
  | .absolute =>
    let (address, cpu, space) := cpu.fetchWord space
    cpu.foundAt space address
  | .absoluteX =>
    let (base, cpu, space) := cpu.fetchWord space
    cpu.foundIndexed space base cpu.registers.x
  | .absoluteY =>
    let (base, cpu, space) := cpu.fetchWord space
    cpu.foundIndexed space base cpu.registers.y
  | .indirect =>
    let (pointer, cpu, space) := cpu.fetchWord space
    let (address, space) := pagePointer space pointer
    cpu.foundAt space address
  | .indirectX =>
    let (pointer, cpu, space) := cpu.fetchByte space
    let (address, space) := zeroPagePointer space (pointer + cpu.registers.x)
    cpu.foundAt space address
  | .indirectY =>
    let (pointer, cpu, space) := cpu.fetchByte space
    let (base, space) := zeroPagePointer space pointer
    cpu.foundIndexed space base cpu.registers.y

/-- Read the operand that was found. Without an operand in memory it is already at hand. -/
@[specialize] def readOperand (mode : AddressingMode) (cpu : Cpu) (space : β) :
    UInt8 × Cpu × β :=
  if mode = .implied then (cpu.operand, cpu, space)
  else
    let (value, space) := AddressSpace.read space cpu.address
    (value, { cpu with operand := value }, space)

/-- Put a byte where the operand was. -/
@[specialize] def replaceOperand (mode : AddressingMode) (cpu : Cpu) (space : β)
    (value : UInt8) : Cpu × β :=
  if mode = .implied then (cpu.withRegisters { cpu.registers with a := value }, space)
  else (cpu, AddressSpace.write space cpu.address value)

/-- Go on at the noted distance; a taken branch takes one cycle more, and another one when it
leaves the page. -/
def takeBranch (cpu : Cpu) : Cpu :=
  let target := cpu.registers.pc + cpu.distance
  let extra : UInt8 := if samePage target cpu.registers.pc then 1 else 2
  { cpu with address := target, cycles := cpu.cycles + extra }.jumpTo target

/-- Let an effect take place on the operand that was found. -/
@[specialize] def perform (mode : AddressingMode) (effect : Effect) (cpu : Cpu) (space : β) :
    Cpu × β :=
  match effect with
  | .load update =>
    let (value, cpu, space) := cpu.readOperand mode space
    (cpu.withRegisters (update value cpu.registers), space)
  | .store source => (cpu, AddressSpace.write space cpu.address (source cpu.registers))
  | .modify change =>
    let (value, cpu, space) := cpu.readOperand mode space
    let (result, carry) := change value cpu.registers.status.carry
    let cpu := cpu.withRegisters (cpu.registers.mapStatus fun status =>
      { status with carry }.describe result)
    cpu.replaceOperand mode space result
  | .transfer update => (cpu.withRegisters (update cpu.registers), space)
  | .branch taken => (if taken cpu.registers.status then cpu.takeBranch else cpu, space)
  | .push source => cpu.push space (source cpu.registers)
  | .pull update =>
    let (value, cpu, space) := cpu.pull space
    (cpu.withRegisters (update value cpu.registers), space)
  | .jump => (cpu.jumpTo cpu.address, space)
  | .call =>
    let (cpu, space) := cpu.pushWord space (cpu.registers.pc - 1)
    (cpu.jumpTo cpu.address, space)
  | .leaveCall =>
    let (address, cpu, space) := cpu.pullWord space
    (cpu.jumpTo (address + 1), space)
  | .leaveInterrupt =>
    let (flags, cpu, space) := cpu.pull space
    let cpu := cpu.withRegisters { cpu.registers with
      status := (Status.ofByte flags).pushedByHardware }
    let (address, cpu, space) := cpu.pullWord space
    (cpu.jumpTo address, space)
  | .enterInterrupt =>
    let (cpu, space) := cpu.pushWord space cpu.registers.pc
    let cpu := cpu.withRegisters (cpu.registers.mapStatus fun status =>
      { status with irqDisable := true })
    let (cpu, space) := cpu.push space cpu.registers.status.pushedByInstruction.toByte
    let (address, space) := readWord space irqVector
    (cpu.jumpTo address, space)

/-- Carry out the next instruction and note the cycles that it takes. -/
@[specialize] def execute (cpu : Cpu) (space : β) : Cpu × β :=
  let (opcode, cpu, space) := cpu.fetchByte space
  let instruction := Instruction.ofOpcode opcode
  let found := findOperand instruction.mode { cpu with opcode, cycles := instruction.cycles } space
  let (cpu, space) :=
    found.cpu.perform instruction.mode instruction.operation.effect found.space
  let extra : UInt8 :=
    if found.crossed && instruction.operation.paysForPageCross then 1 else 0
  let cpu := { cpu with cycles := cpu.cycles + extra }
  (cpu.withRegisters (cpu.registers.mapStatus fun status => { status with unused := true }),
    space)

/-- One cycle: begin an instruction if none is in flight, and count the cycle. -/
@[specialize] def step (cpu : Cpu) (space : β) : Cpu × β :=
  let (cpu, space) := if cpu.complete then cpu.execute space else (cpu, space)
  ({ cpu with cycles := cpu.cycles - 1 }, space)

/-- Return the registers to power-on values and go on at the reset vector. -/
@[specialize] def reset (cpu : Cpu) (space : β) : Cpu × β :=
  let (address, space) := readWord space resetVector
  ({ cpu with
      registers := { Registers.powerOn with pc := address }
      address := 0
      distance := 0
      operand := 0
      cycles := 8 }, space)

/-- Push the program counter and the status, mask interrupts and go on at a vector. -/
@[specialize] def interrupt (cpu : Cpu) (space : β) (vector : UInt16) : Cpu × β :=
  let (cpu, space) := cpu.pushWord space cpu.registers.pc
  let (cpu, space) := cpu.push space cpu.registers.status.pushedByHardware.toByte
  let cpu := cpu.withRegisters (cpu.registers.mapStatus fun status =>
    { status with irqDisable := true })
  let (address, space) := readWord space vector
  (cpu.jumpTo address, space)

/-- A maskable interrupt, ignored while it is masked. -/
@[specialize] def irq (cpu : Cpu) (space : β) : Cpu × β :=
  if cpu.registers.status.irqDisable then (cpu, space)
  else
    let (cpu, space) := cpu.interrupt space irqVector
    ({ cpu with cycles := 7 }, space)

/-- A non-maskable interrupt. -/
@[specialize] def nmi (cpu : Cpu) (space : β) : Cpu × β :=
  let (cpu, space) := cpu.interrupt space nmiVector
  ({ cpu with cycles := 8 }, space)

end Nes.Cpu
