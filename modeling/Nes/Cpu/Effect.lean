import Nes.Cpu.Instruction
import Nes.Cpu.Status

/-!
# Effects of operations

Operations fall into a few shapes by the accesses that they make: one that reads an operand and
changes registers by it, one that stores a register, one that reads, changes and writes back, and
so on. An `Effect` is such a shape together with the pure function on registers that tells one
operation of the shape from another. What remains of an operation is plain arithmetic on bytes.
-/
namespace Nes.Cpu

/-- The registers that a program sees. -/
structure Registers where
  /-- Accumulator. -/
  a : UInt8
  /-- First index register. -/
  x : UInt8
  /-- Second index register. -/
  y : UInt8
  /-- Stack pointer, an address in page one. -/
  sp : UInt8
  /-- Program counter. -/
  pc : UInt16
  /-- Status flags. -/
  status : Status
deriving DecidableEq

namespace Registers

/-- The registers at power-on, before the program counter is loaded. -/
def powerOn : Registers := ⟨0, 0, 0, 0xFD, 0, Status.powerOn⟩

/-- Put a result into the accumulator and describe it in the flags. -/
def setA (registers : Registers) (value : UInt8) : Registers :=
  { registers with a := value, status := registers.status.describe value }

/-- Put a result into `x` and describe it in the flags. -/
def setX (registers : Registers) (value : UInt8) : Registers :=
  { registers with x := value, status := registers.status.describe value }

/-- Put a result into `y` and describe it in the flags. -/
def setY (registers : Registers) (value : UInt8) : Registers :=
  { registers with y := value, status := registers.status.describe value }

/-- Add a byte and the carry to the accumulator. The overflow flag is set when both addends have
the sign that the sum has not. -/
def addWithCarry (registers : Registers) (value : UInt8) : Registers :=
  let sum := registers.a.toUInt16 + value.toUInt16 + registers.status.carry.toUInt8.toUInt16
  let result := sum.toUInt8
  let status := { registers.status with
    carry := sum > 0xFF
    overflow := bit (~~~(registers.a ^^^ value) &&& (registers.a ^^^ result)) 7 }
  { registers with a := result, status := status.describe result }

/-- Compare a register with a byte as subtraction would, keeping only the flags. -/
def compare (registers : Registers) (register value : UInt8) : Registers :=
  { registers with
    status := { registers.status with carry := register ≥ value }.describe (register - value) }

/-- Compare bits: `zero` tells whether the accumulator shares a bit with the byte, and the two
high bits of the byte are copied to the flags of their names. -/
def testBits (registers : Registers) (value : UInt8) : Registers :=
  { registers with status := { registers.status with
      zero := registers.a &&& value == 0
      negative := bit value 7
      overflow := bit value 6 } }

/-- Change the status flags. -/
@[inline] def mapStatus (registers : Registers) (change : Status → Status) : Registers :=
  { registers with status := change registers.status }

end Registers

/-- The shapes of operations. -/
inductive Effect where
  /-- Read the operand and change registers by it. -/
  | load (update : UInt8 → Registers → Registers)
  /-- Write a register to the operand's address. -/
  | store (source : Registers → UInt8)
  /-- Read the operand, change it, and put it back where it was. The change takes and gives a
  carry; the result is described in the flags. -/
  | modify (change : UInt8 → Bool → UInt8 × Bool)
  /-- Change registers only. -/
  | transfer (update : Registers → Registers)
  /-- Go on at a distance if the flags say so. -/
  | branch (taken : Status → Bool)
  /-- Push a byte. -/
  | push (source : Registers → UInt8)
  /-- Pull a byte and change registers by it. -/
  | pull (update : UInt8 → Registers → Registers)
  /-- Go on at the operand's address. -/
  | jump
  /-- Push the address of the last byte of the instruction and go on at the operand's address. -/
  | call
  /-- Pull an address and go on behind it. -/
  | leaveCall
  /-- Pull the status and an address, and go on there. -/
  | leaveInterrupt
  /-- Push the address behind the padding byte and the status, and go on at the interrupt
  vector. -/
  | enterInterrupt

/-- The effect of an operation. -/
def Operation.effect : Operation → Effect
  | lda => .load fun value registers => registers.setA value
  | ldx => .load fun value registers => registers.setX value
  | ldy => .load fun value registers => registers.setY value
  | and => .load fun value registers => registers.setA (registers.a &&& value)
  | ora => .load fun value registers => registers.setA (registers.a ||| value)
  | eor => .load fun value registers => registers.setA (registers.a ^^^ value)
  | bit => .load fun value registers => registers.testBits value
  | adc => .load fun value registers => registers.addWithCarry value
  -- subtraction is addition of the complement
  | sbc => .load fun value registers => registers.addWithCarry (~~~value)
  | cmp => .load fun value registers => registers.compare registers.a value
  | cpx => .load fun value registers => registers.compare registers.x value
  | cpy => .load fun value registers => registers.compare registers.y value
  | sta => .store (·.a)
  | stx => .store (·.x)
  | sty => .store (·.y)
  | inc => .modify fun value carry => (value + 1, carry)
  | dec => .modify fun value carry => (value - 1, carry)
  | asl => .modify fun value _ => (value <<< 1, Nes.bit value 7)
  | lsr => .modify fun value _ => (value >>> 1, Nes.bit value 0)
  | rol => .modify fun value carry => (value <<< 1 ||| carry.toUInt8, Nes.bit value 7)
  | ror => .modify fun value carry => (value >>> 1 ||| carry.toUInt8 <<< 7, Nes.bit value 0)
  | tax => .transfer fun registers => registers.setX registers.a
  | tay => .transfer fun registers => registers.setY registers.a
  | tsx => .transfer fun registers => registers.setX registers.sp
  | txa => .transfer fun registers => registers.setA registers.x
  | txs => .transfer fun registers => { registers with sp := registers.x }
  | tya => .transfer fun registers => registers.setA registers.y
  | inx => .transfer fun registers => registers.setX (registers.x + 1)
  | iny => .transfer fun registers => registers.setY (registers.y + 1)
  | dex => .transfer fun registers => registers.setX (registers.x - 1)
  | dey => .transfer fun registers => registers.setY (registers.y - 1)
  | clc => .transfer (·.mapStatus fun status => { status with carry := false })
  | cld => .transfer (·.mapStatus fun status => { status with decimal := false })
  | cli => .transfer (·.mapStatus fun status => { status with irqDisable := false })
  | clv => .transfer (·.mapStatus fun status => { status with overflow := false })
  | sec => .transfer (·.mapStatus fun status => { status with carry := true })
  | sed => .transfer (·.mapStatus fun status => { status with decimal := true })
  | sei => .transfer (·.mapStatus fun status => { status with irqDisable := true })
  | nop | unofficial => .transfer id
  | bcc => .branch fun status => !status.carry
  | bcs => .branch (·.carry)
  | bne => .branch fun status => !status.zero
  | beq => .branch (·.zero)
  | bpl => .branch fun status => !status.negative
  | bmi => .branch (·.negative)
  | bvc => .branch fun status => !status.overflow
  | bvs => .branch (·.overflow)
  | pha => .push (·.a)
  | php => .push (·.status.pushedByInstruction.toByte)
  | pla => .pull fun value registers => registers.setA value
  | plp => .pull fun value registers =>
    { registers with status := (Status.ofByte value).pushedByHardware }
  | jmp => .jump
  | jsr => .call
  | rts => .leaveCall
  | rti => .leaveInterrupt
  | brk => .enterInterrupt

end Nes.Cpu
