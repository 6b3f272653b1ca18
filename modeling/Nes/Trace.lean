import Nes.Machine
import Nes.Text.Digits

/-!
# Traces

States in one line of text, to be written down between the steps of a run and compared. Registers
stand in upper-case hexadecimal digits of their width, places and counts in decimal digits.
-/
namespace Nes

/-- A flag as one digit. -/
def flagText (flag : Bool) : String := if flag then "1" else "0"

/-- A byte in a trace. -/
def byteText (byte : UInt8) : String := upperHex 2 byte.toNat

/-- A word in a trace. -/
def wordText (word : UInt16) : String := upperHex 4 word.toNat

/-- An access in a trace. -/
def Cpu.Access.describe : Cpu.Access → String
  | .read address => s!"R{wordText address}"
  | .write address value => s!"W{wordText address}={byteText value}"

/-- The registers of a processor, and the cycles that it has left. -/
def Cpu.describe (cpu : Cpu) : String :=
  let registers := cpu.registers
  s!"PC={wordText registers.pc} A={byteText registers.a} X={byteText registers.x}"
    ++ s!" Y={byteText registers.y} SP={byteText registers.sp}"
    ++ s!" P={byteText registers.status.toByte} C={cpu.cycles.toNat}"

/-- The place and the registers of a picture chip. -/
def Ppu.describe (ppu : Ppu) : String :=
  s!"L={ppu.line.toInt} D={ppu.dot.toInt} CTRL={byteText ppu.control.byte}"
    ++ s!" MASK={byteText ppu.mask.byte} ST={byteText ppu.status.toByte}"
    ++ s!" V={wordText ppu.scroll.raw} T={wordText ppu.nextScroll.raw}"
    ++ s!" FX={ppu.fineX.toNat} ODD={flagText ppu.oddFrame}"

/-- A machine: both chips, the count of ticks, and whether a transfer is going on. -/
def Machine.describe (machine : Machine) : String :=
  s!"{machine.cpu.describe} {machine.bus.ppu.describe} CLK={machine.bus.ticks.toNat}"
    ++ s!" DMA={flagText machine.bus.transferring}"

/-- Equal neighbours counted together. -/
def Color.runs : List Color → List (Color × Nat)
  | [] => []
  | color :: rest =>
    match runs rest with
    | [] => [(color, 1)]
    | (next, count) :: runs =>
      if color = next then (color, count + 1) :: runs else (color, 1) :: (next, count) :: runs

/-- The runs of equal colours on a line of a picture, if the line is in the picture. -/
def FrameBuffer.describeLine? (frame : FrameBuffer) (y : Nat) : Option String :=
  (frame.line? y).map fun colors =>
    " ".intercalate ((Color.runs colors).map fun (color, count) =>
      s!"{hexText color.toList}*{count}")

end Nes
