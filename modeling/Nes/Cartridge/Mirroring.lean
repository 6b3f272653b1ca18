import Nes.SaveState.Codec

/-!
# Nametable mirroring

The picture chip has two physical nametables behind four logical ones. Mirroring tells which
physical table is behind each; it is wired on the cartridge, or chosen by its board at run time.
-/
namespace Nes

/-- Which physical nametable lies behind each logical one. -/
inductive Mirroring where
  /-- Left and right are one table. -/
  | horizontal
  /-- Top and bottom are one table. -/
  | vertical
  /-- All are the first table. -/
  | oneScreenLow
  /-- All are the second table. -/
  | oneScreenHigh
deriving DecidableEq

namespace Mirroring

/-- The name of a mirroring. -/
def name : Mirroring → String
  | horizontal => "Horizontal"
  | vertical => "Vertical"
  | oneScreenLow => "OneScreenLo"
  | oneScreenHigh => "OneScreenHi"

/-- Whether the second physical table lies behind an address of the logical tables. -/
def picksSecond (mirroring : Mirroring) (address : UInt16) : Bool :=
  match mirroring with
  | vertical => wordBit address 10
  | horizontal => wordBit address 11
  | oneScreenLow => false
  | oneScreenHigh => true

open SaveState in
/-- The stored form of the mirroring wired on a cartridge; an unknown byte reads as horizontal. -/
def codec : Codec Mirroring :=
  Codec.byte.map
    (fun byte =>
      if byte = 1 then vertical
      else if byte = 2 then oneScreenLow
      else if byte = 3 then oneScreenHigh
      else horizontal)
    fun
      | horizontal => 0
      | vertical => 1
      | oneScreenLow => 2
      | oneScreenHigh => 3

open SaveState in
/-- The stored form of the mirroring chosen by a board, which may leave the choice to the wiring;
an unknown byte reads as no choice. -/
def choiceCodec : Codec (Option Mirroring) :=
  Codec.byte.map
    (fun byte =>
      if byte = 1 then some horizontal
      else if byte = 2 then some vertical
      else if byte = 3 then some oneScreenLow
      else if byte = 4 then some oneScreenHigh
      else none)
    fun
      | none => 0
      | some horizontal => 1
      | some vertical => 2
      | some oneScreenLow => 3
      | some oneScreenHigh => 4

end Mirroring

end Nes
