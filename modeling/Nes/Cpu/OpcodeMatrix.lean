import Nes.Cpu.Instruction

/-!
# The opcode matrix

The meaning of each of the 256 opcodes: the high digit of an opcode is its row and the low digit
its column. Undocumented opcodes are one byte long whatever they do in a chip, and `EB` subtracts
the accumulator from itself.
-/
namespace Nes.Cpu

namespace OpcodeMatrix

/-- An instruction with an operand. -/
abbrev on (operation : Operation) (mode : AddressingMode) (cycles : UInt8) : Instruction :=
  ⟨operation, mode, cycles⟩

/-- An instruction that is its opcode alone. -/
abbrev alone (operation : Operation) (cycles : UInt8) : Instruction :=
  ⟨operation, .implied, cycles⟩

/-- An opcode that only spends cycles. -/
abbrev idle (cycles : UInt8) : Instruction := ⟨.unofficial, .implied, cycles⟩

/-- Opcodes `00` to `0F`. -/
def row0 : Vector Instruction 16 :=
  #v[on .brk .immediate 7, on .ora .indirectX 6, idle 2, idle 8, alone .nop 3,
    on .ora .zeroPage 3, on .asl .zeroPage 5, idle 5, alone .php 3, on .ora .immediate 2,
    alone .asl 2, idle 2, alone .nop 4, on .ora .absolute 4, on .asl .absolute 6, idle 6]

/-- Opcodes `10` to `1F`. -/
def row1 : Vector Instruction 16 :=
  #v[on .bpl .relative 2, on .ora .indirectY 5, idle 2, idle 8, alone .nop 4,
    on .ora .zeroPageX 4, on .asl .zeroPageX 6, idle 6, alone .clc 2, on .ora .absoluteY 4,
    alone .nop 2, idle 7, alone .nop 4, on .ora .absoluteX 4, on .asl .absoluteX 7, idle 7]

/-- Opcodes `20` to `2F`. -/
def row2 : Vector Instruction 16 :=
  #v[on .jsr .absolute 6, on .and .indirectX 6, idle 2, idle 8, on .bit .zeroPage 3,
    on .and .zeroPage 3, on .rol .zeroPage 5, idle 5, alone .plp 4, on .and .immediate 2,
    alone .rol 2, idle 2, on .bit .absolute 4, on .and .absolute 4, on .rol .absolute 6, idle 6]

/-- Opcodes `30` to `3F`. -/
def row3 : Vector Instruction 16 :=
  #v[on .bmi .relative 2, on .and .indirectY 5, idle 2, idle 8, alone .nop 4,
    on .and .zeroPageX 4, on .rol .zeroPageX 6, idle 6, alone .sec 2, on .and .absoluteY 4,
    alone .nop 2, idle 7, alone .nop 4, on .and .absoluteX 4, on .rol .absoluteX 7, idle 7]

/-- Opcodes `40` to `4F`. -/
def row4 : Vector Instruction 16 :=
  #v[alone .rti 6, on .eor .indirectX 6, idle 2, idle 8, alone .nop 3, on .eor .zeroPage 3,
    on .lsr .zeroPage 5, idle 5, alone .pha 3, on .eor .immediate 2, alone .lsr 2, idle 2,
    on .jmp .absolute 3, on .eor .absolute 4, on .lsr .absolute 6, idle 6]

/-- Opcodes `50` to `5F`. -/
def row5 : Vector Instruction 16 :=
  #v[on .bvc .relative 2, on .eor .indirectY 5, idle 2, idle 8, alone .nop 4,
    on .eor .zeroPageX 4, on .lsr .zeroPageX 6, idle 6, alone .cli 2, on .eor .absoluteY 4,
    alone .nop 2, idle 7, alone .nop 4, on .eor .absoluteX 4, on .lsr .absoluteX 7, idle 7]

/-- Opcodes `60` to `6F`. -/
def row6 : Vector Instruction 16 :=
  #v[alone .rts 6, on .adc .indirectX 6, idle 2, idle 8, alone .nop 3, on .adc .zeroPage 3,
    on .ror .zeroPage 5, idle 5, alone .pla 4, on .adc .immediate 2, alone .ror 2, idle 2,
    on .jmp .indirect 5, on .adc .absolute 4, on .ror .absolute 6, idle 6]

/-- Opcodes `70` to `7F`. -/
def row7 : Vector Instruction 16 :=
  #v[on .bvs .relative 2, on .adc .indirectY 5, idle 2, idle 8, alone .nop 4,
    on .adc .zeroPageX 4, on .ror .zeroPageX 6, idle 6, alone .sei 2, on .adc .absoluteY 4,
    alone .nop 2, idle 7, alone .nop 4, on .adc .absoluteX 4, on .ror .absoluteX 7, idle 7]

/-- Opcodes `80` to `8F`. -/
def row8 : Vector Instruction 16 :=
  #v[alone .nop 2, on .sta .indirectX 6, alone .nop 2, idle 6, on .sty .zeroPage 3,
    on .sta .zeroPage 3, on .stx .zeroPage 3, idle 3, alone .dey 2, alone .nop 2, alone .txa 2,
    idle 2, on .sty .absolute 4, on .sta .absolute 4, on .stx .absolute 4, idle 4]

/-- Opcodes `90` to `9F`. -/
def row9 : Vector Instruction 16 :=
  #v[on .bcc .relative 2, on .sta .indirectY 6, idle 2, idle 6, on .sty .zeroPageX 4,
    on .sta .zeroPageX 4, on .stx .zeroPageY 4, idle 4, alone .tya 2, on .sta .absoluteY 5,
    alone .txs 2, idle 5, alone .nop 5, on .sta .absoluteX 5, idle 5, idle 5]

/-- Opcodes `A0` to `AF`. -/
def rowA : Vector Instruction 16 :=
  #v[on .ldy .immediate 2, on .lda .indirectX 6, on .ldx .immediate 2, idle 6,
    on .ldy .zeroPage 3, on .lda .zeroPage 3, on .ldx .zeroPage 3, idle 3, alone .tay 2,
    on .lda .immediate 2, alone .tax 2, idle 2, on .ldy .absolute 4, on .lda .absolute 4,
    on .ldx .absolute 4, idle 4]

/-- Opcodes `B0` to `BF`. -/
def rowB : Vector Instruction 16 :=
  #v[on .bcs .relative 2, on .lda .indirectY 5, idle 2, idle 5, on .ldy .zeroPageX 4,
    on .lda .zeroPageX 4, on .ldx .zeroPageY 4, idle 4, alone .clv 2, on .lda .absoluteY 4,
    alone .tsx 2, idle 4, on .ldy .absoluteX 4, on .lda .absoluteX 4, on .ldx .absoluteY 4,
    idle 4]

/-- Opcodes `C0` to `CF`. -/
def rowC : Vector Instruction 16 :=
  #v[on .cpy .immediate 2, on .cmp .indirectX 6, alone .nop 2, idle 8, on .cpy .zeroPage 3,
    on .cmp .zeroPage 3, on .dec .zeroPage 5, idle 5, alone .iny 2, on .cmp .immediate 2,
    alone .dex 2, idle 2, on .cpy .absolute 4, on .cmp .absolute 4, on .dec .absolute 6, idle 6]

/-- Opcodes `D0` to `DF`. -/
def rowD : Vector Instruction 16 :=
  #v[on .bne .relative 2, on .cmp .indirectY 5, idle 2, idle 8, alone .nop 4,
    on .cmp .zeroPageX 4, on .dec .zeroPageX 6, idle 6, alone .cld 2, on .cmp .absoluteY 4,
    alone .nop 2, idle 7, alone .nop 4, on .cmp .absoluteX 4, on .dec .absoluteX 7, idle 7]

/-- Opcodes `E0` to `EF`. -/
def rowE : Vector Instruction 16 :=
  #v[on .cpx .immediate 2, on .sbc .indirectX 6, alone .nop 2, idle 8, on .cpx .zeroPage 3,
    on .sbc .zeroPage 3, on .inc .zeroPage 5, idle 5, alone .inx 2, on .sbc .immediate 2,
    alone .nop 2, alone .sbc 2, on .cpx .absolute 4, on .sbc .absolute 4, on .inc .absolute 6,
    idle 6]

/-- Opcodes `F0` to `FF`. -/
def rowF : Vector Instruction 16 :=
  #v[on .beq .relative 2, on .sbc .indirectY 5, idle 2, idle 8, alone .nop 4,
    on .sbc .zeroPageX 4, on .inc .zeroPageX 6, idle 6, alone .sed 2, on .sbc .absoluteY 4,
    alone .nop 2, idle 7, alone .nop 4, on .sbc .absoluteX 4, on .inc .absoluteX 7, idle 7]

/-- The sixteen rows. -/
def rows : Vector (Vector Instruction 16) 16 :=
  #v[row0, row1, row2, row3, row4, row5, row6, row7, row8, row9, rowA, rowB, rowC, rowD, rowE,
    rowF]

end OpcodeMatrix

/-- An opcode has a row. -/
theorem OpcodeMatrix.row_lt (opcode : UInt8) : opcode.toNat / 16 < 16 := by
  have bound := opcode.toNat_lt
  omega

/-- The instruction that an opcode stands for. -/
def Instruction.ofOpcode (opcode : UInt8) : Instruction :=
  have row := OpcodeMatrix.row_lt opcode
  have column : opcode.toNat % 16 < 16 := Nat.mod_lt _ (by decide)
  OpcodeMatrix.rows[opcode.toNat / 16][opcode.toNat % 16]

end Nes.Cpu
