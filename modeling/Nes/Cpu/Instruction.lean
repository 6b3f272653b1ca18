/-!
# Instructions

An instruction is an operation on an operand that an addressing mode finds, and the number of
processor cycles that it takes at least. Opcodes without a documented meaning are instructions
too: they spend their cycles and do nothing else.
-/
namespace Nes.Cpu

/-- How an instruction finds its operand. -/
inductive AddressingMode where
  /-- No operand, or the accumulator. -/
  | implied
  /-- The byte after the opcode. -/
  | immediate
  /-- An address in page zero. -/
  | zeroPage
  /-- An address in page zero plus `x`, without leaving the page. -/
  | zeroPageX
  /-- An address in page zero plus `y`, without leaving the page. -/
  | zeroPageY
  /-- A signed distance from the next instruction. -/
  | relative
  /-- A full address. -/
  | absolute
  /-- A full address plus `x`. -/
  | absoluteX
  /-- A full address plus `y`. -/
  | absoluteY
  /-- The address stored at a full address. -/
  | indirect
  /-- The address stored in page zero at an address plus `x`. -/
  | indirectX
  /-- The address stored in page zero, plus `y`. -/
  | indirectY
deriving DecidableEq

/-- The name of a mode in listings. -/
def AddressingMode.name : AddressingMode → String
  | implied => "Implied"
  | immediate => "Immediate"
  | zeroPage => "ZeroPage"
  | zeroPageX => "ZeroPageX"
  | zeroPageY => "ZeroPageY"
  | relative => "Relative"
  | absolute => "Absolute"
  | absoluteX => "AbsoluteX"
  | absoluteY => "AbsoluteY"
  | indirect => "Indirect"
  | indirectX => "IndirectX"
  | indirectY => "IndirectY"

/-- What an instruction does, named by its mnemonic; `unofficial` stands for all opcodes without
a documented meaning and without a common name. -/
inductive Operation where
  | adc | and | asl | bcc | bcs | beq | bit | bmi | bne | bpl | brk | bvc | bvs | clc
  | cld | cli | clv | cmp | cpx | cpy | dec | dex | dey | eor | inc | inx | iny | jmp
  | jsr | lda | ldx | ldy | lsr | nop | ora | pha | php | pla | plp | rol | ror | rti
  | rts | sbc | sec | sed | sei | sta | stx | sty | tax | tay | tsx | txa | txs | tya
  | unofficial
deriving DecidableEq

namespace Operation

/-- Whether the operation takes one cycle more when indexing crosses a page. -/
def paysForPageCross : Operation → Bool
  | adc | and | cmp | eor | lda | ldx | ldy | ora | sbc => true
  | _ => false

/-- The mnemonic in listings. -/
def mnemonic : Operation → String
  | adc => "ADC" | and => "AND" | asl => "ASL" | bcc => "BCC" | bcs => "BCS" | beq => "BEQ"
  | bit => "BIT" | bmi => "BMI" | bne => "BNE" | bpl => "BPL" | brk => "BRK" | bvc => "BVC"
  | bvs => "BVS" | clc => "CLC" | cld => "CLD" | cli => "CLI" | clv => "CLV" | cmp => "CMP"
  | cpx => "CPX" | cpy => "CPY" | dec => "DEC" | dex => "DEX" | dey => "DEY" | eor => "EOR"
  | inc => "INC" | inx => "INX" | iny => "INY" | jmp => "JMP" | jsr => "JSR" | lda => "LDA"
  | ldx => "LDX" | ldy => "LDY" | lsr => "LSR" | nop => "NOP" | ora => "ORA" | pha => "PHA"
  | php => "PHP" | pla => "PLA" | plp => "PLP" | rol => "ROL" | ror => "ROR" | rti => "RTI"
  | rts => "RTS" | sbc => "SBC" | sec => "SEC" | sed => "SED" | sei => "SEI" | sta => "STA"
  | stx => "STX" | sty => "STY" | tax => "TAX" | tay => "TAY" | tsx => "TSX" | txa => "TXA"
  | txs => "TXS" | tya => "TYA" | unofficial => "???"

end Operation

/-- One entry of the opcode matrix. -/
structure Instruction where
  /-- What is done. -/
  operation : Operation
  /-- Where the operand is. -/
  mode : AddressingMode
  /-- Cycles taken before any page or branch extra. -/
  cycles : UInt8
deriving DecidableEq

end Nes.Cpu
