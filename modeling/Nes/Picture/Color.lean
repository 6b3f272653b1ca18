/-!
# Colours

The picture is made of 64 fixed colours, named by the six low bits of a palette entry.
-/
namespace Nes

/-- A colour with its opacity. -/
structure Color where
  /-- Red. -/
  red : UInt8
  /-- Green. -/
  green : UInt8
  /-- Blue. -/
  blue : UInt8
  /-- Opacity. -/
  alpha : UInt8
deriving DecidableEq

namespace Color

/-- An opaque colour. -/
def rgb (red green blue : UInt8) : Color := ⟨red, green, blue, 0xFF⟩

/-- No colour at all. -/
def transparent : Color := ⟨0, 0, 0, 0⟩

/-- The four bytes of a colour. -/
def toList (color : Color) : List UInt8 := [color.red, color.green, color.blue, color.alpha]

/-- The colours of the picture chip in the order of palette entries. -/
def standard : Vector Color 64 :=
  #v[
    rgb 84 84 84, rgb 0 30 116, rgb 8 16 144, rgb 48 0 136,
    rgb 68 0 100, rgb 92 0 48, rgb 84 4 0, rgb 60 24 0,
    rgb 32 42 0, rgb 8 58 0, rgb 0 64 0, rgb 0 60 0,
    rgb 0 50 60, rgb 0 0 0, rgb 0 0 0, rgb 0 0 0,
    rgb 152 150 152, rgb 8 76 196, rgb 48 50 236, rgb 92 30 228,
    rgb 136 20 176, rgb 160 20 100, rgb 152 34 32, rgb 120 60 0,
    rgb 84 90 0, rgb 40 114 0, rgb 8 124 0, rgb 0 118 40,
    rgb 0 102 120, rgb 0 0 0, rgb 0 0 0, rgb 0 0 0,
    rgb 236 238 236, rgb 76 154 236, rgb 120 124 236, rgb 176 98 236,
    rgb 228 84 236, rgb 236 88 180, rgb 236 106 100, rgb 212 136 32,
    rgb 160 170 0, rgb 116 196 0, rgb 76 208 32, rgb 56 204 108,
    rgb 56 180 204, rgb 60 60 60, rgb 0 0 0, rgb 0 0 0,
    rgb 236 238 236, rgb 168 204 236, rgb 188 188 236, rgb 212 178 236,
    rgb 236 174 236, rgb 236 174 212, rgb 236 180 176, rgb 228 196 144,
    rgb 204 210 120, rgb 180 222 120, rgb 168 226 144, rgb 152 226 180,
    rgb 160 214 228, rgb 160 162 160, rgb 0 0 0, rgb 0 0 0]

/-- The colour of a palette entry; its two high bits have no meaning. -/
def ofEntry (entry : UInt8) : Color :=
  have inside : entry.toNat % 64 < 64 := Nat.mod_lt _ (by decide)
  standard[entry.toNat % 64]

end Color

end Nes
