import Nes.Word

/-!
# Flag registers of the picture chip

The control register (`2000`) and the mask register (`2001`) are written whole, so each is its
byte with names for the bits. The status register (`2002`) changes flag by flag, so it keeps its
three flags apart; the five low bits have no meaning but are stored with the rest.
-/
namespace Nes.Ppu

/-- The control register. -/
structure Control where
  /-- The byte written last. -/
  byte : UInt8
deriving DecidableEq

namespace Control

/-- Accesses to video memory step down a column instead of along a row. -/
@[inline] def stepsDown (control : Control) : Bool := bit control.byte 2

/-- Small sprites use the second pattern table. -/
@[inline] def spriteTable (control : Control) : Bool := bit control.byte 3

/-- The background uses the second pattern table. -/
@[inline] def backgroundTable (control : Control) : Bool := bit control.byte 4

/-- Sprites are sixteen lines high. -/
@[inline] def tallSprites (control : Control) : Bool := bit control.byte 5

/-- The start of the vertical blank raises an interrupt. -/
@[inline] def nmiEnabled (control : Control) : Bool := bit control.byte 7

/-- What an access to video memory adds to its address. -/
def increment (control : Control) : UInt16 := if control.stepsDown then 32 else 1

/-- The number of lines of a sprite. -/
def spriteHeight (control : Control) : Nat := if control.tallSprites then 16 else 8

end Control

/-- The mask register. -/
structure Mask where
  /-- The byte written last. -/
  byte : UInt8
deriving DecidableEq

namespace Mask

/-- Colours lose their hue. -/
@[inline] def greyscale (mask : Mask) : Bool := bit mask.byte 0

/-- The background is shown in the eight leftmost columns. -/
@[inline] def showBackgroundLeft (mask : Mask) : Bool := bit mask.byte 1

/-- Sprites are shown in the eight leftmost columns. -/
@[inline] def showSpritesLeft (mask : Mask) : Bool := bit mask.byte 2

/-- The background is shown. -/
@[inline] def showBackground (mask : Mask) : Bool := bit mask.byte 3

/-- Sprites are shown. -/
@[inline] def showSprites (mask : Mask) : Bool := bit mask.byte 4

/-- Anything is shown. -/
@[inline] def rendering (mask : Mask) : Bool := mask.showBackground || mask.showSprites

end Mask

/-- The status register. -/
structure Status where
  /-- The vertical blank has begun. -/
  vblank : Bool
  /-- An opaque pixel of sprite zero has met an opaque background pixel. -/
  zeroHit : Bool
  /-- More than eight sprites lie on one line. -/
  overflow : Bool
  /-- The five low bits. -/
  low : UInt8
deriving DecidableEq

namespace Status

/-- No flag is set. -/
def clear : Status := ⟨false, false, false, 0⟩

/-- The flags as a byte. -/
def toByte (status : Status) : UInt8 :=
  status.vblank.toUInt8 <<< 7 ||| status.zeroHit.toUInt8 <<< 6 ||| status.overflow.toUInt8 <<< 5
    ||| (status.low &&& 0x1F)

/-- The flags that a byte stands for. -/
def ofByte (byte : UInt8) : Status := ⟨bit byte 7, bit byte 6, bit byte 5, byte &&& 0x1F⟩

end Status

end Nes.Ppu
