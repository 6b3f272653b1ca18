import Nes.Word

/-!
# The processor status

Eight flags, one for each bit of the byte that pushes and pulls of the status move. Two of them
are no latches in the chip: `unused` reads as set, and `brk` only marks in a stacked copy that
an instruction, and not the hardware, pushed it. They are kept here because a stored state holds
all eight bits.
-/
namespace Nes.Cpu

/-- The status flags, from bit 7 down to bit 0. -/
structure Status where
  /-- Bit 7 of the latest result. -/
  negative : Bool
  /-- The latest addition left the signed range. -/
  overflow : Bool
  /-- Reads as set after every instruction. -/
  unused : Bool
  /-- Set in copies pushed by an instruction. -/
  brk : Bool
  /-- Kept, and without effect on arithmetic. -/
  decimal : Bool
  /-- Maskable interrupts are ignored. -/
  irqDisable : Bool
  /-- The latest result was zero. -/
  zero : Bool
  /-- Carry out of an addition, or no borrow out of a subtraction. -/
  carry : Bool
deriving DecidableEq

namespace Status

/-- Only `unused` is set at power-on. -/
def powerOn : Status where
  negative := false
  overflow := false
  unused := true
  brk := false
  decimal := false
  irqDisable := false
  zero := false
  carry := false

/-- The flags as the byte that is pushed. -/
def toByte (status : Status) : UInt8 :=
  status.carry.toUInt8 ||| status.zero.toUInt8 <<< 1 ||| status.irqDisable.toUInt8 <<< 2
    ||| status.decimal.toUInt8 <<< 3 ||| status.brk.toUInt8 <<< 4
    ||| status.unused.toUInt8 <<< 5 ||| status.overflow.toUInt8 <<< 6
    ||| status.negative.toUInt8 <<< 7

/-- The flags that a byte stands for. -/
def ofByte (byte : UInt8) : Status where
  negative := bit byte 7
  overflow := bit byte 6
  unused := bit byte 5
  brk := bit byte 4
  decimal := bit byte 3
  irqDisable := bit byte 2
  zero := bit byte 1
  carry := bit byte 0

/-- The status after a result: `zero` and `negative` describe it. -/
def describe (status : Status) (result : UInt8) : Status :=
  { status with zero := result == 0, negative := bit result 7 }

/-- The copy that an instruction pushes. -/
def pushedByInstruction (status : Status) : Status := { status with brk := true, unused := true }

/-- The copy that an interrupt pushes, and the status that a pull leaves. -/
def pushedByHardware (status : Status) : Status := { status with brk := false, unused := true }

/-- Whether every flag of the mask is set. -/
def hasAll (status : Status) (mask : UInt8) : Bool := status.toByte &&& mask == mask

/-- The status with every flag of the mask set to one value. -/
def assign (status : Status) (mask : UInt8) (on : Bool) : Status :=
  ofByte (if on then status.toByte ||| mask else status.toByte &&& ~~~mask)

/-- The byte of a status stands for that status. -/
theorem ofByte_toByte (status : Status) : ofByte status.toByte = status := by
  obtain ⟨negative, overflow, unused, brk, decimal, irqDisable, zero, carry⟩ := status
  cases negative <;> cases overflow <;> cases unused <;> cases brk <;> cases decimal <;>
    cases irqDisable <;> cases zero <;> cases carry <;> rfl

end Status

end Nes.Cpu
