import Nes.Picture.Color

/-!
# Pictures

A picture is 256 pixels wide and 240 lines high. The frame buffer keeps the colour of each pixel
in raster order; the screen is a frame buffer that also counts the pixels drawn into it.
-/
namespace Nes

/-- The width of a picture in pixels. -/
def pictureWidth : Nat := 256

/-- The height of a picture in lines. -/
def pictureHeight : Nat := 240

/-- The number of pixels of a picture. -/
def pictureSize : Nat := 61440

/-- A colour at a place of the picture. -/
structure Pixel where
  /-- The column. -/
  x : Nat
  /-- The line. -/
  y : Nat
  /-- The colour. -/
  color : Color
deriving DecidableEq

/-- A picture kept in memory. -/
structure FrameBuffer where
  /-- The colours line by line. -/
  pixels : Vector Color pictureSize

namespace FrameBuffer

/-- A picture without any colour. -/
def blank : FrameBuffer := ⟨Vector.replicate _ Color.transparent⟩

/-- A place in the picture has a place in the frame buffer. -/
theorem index_lt {x y : Nat} (inside : x < pictureWidth ∧ y < pictureHeight) :
    y * pictureWidth + x < pictureSize := by
  simp only [pictureWidth, pictureHeight, pictureSize] at *
  omega

/-- The colour at a place, if the place is in the picture. -/
def get? (frame : FrameBuffer) (x y : Nat) : Option Color :=
  if inside : x < pictureWidth ∧ y < pictureHeight then
    have place := index_lt inside
    some frame.pixels[y * pictureWidth + x]
  else none

/-- Draw a pixel; outside the picture nothing changes. -/
def draw (frame : FrameBuffer) (pixel : Pixel) : FrameBuffer :=
  if inside : pixel.x < pictureWidth ∧ pixel.y < pictureHeight then
    ⟨frame.pixels.set (pixel.y * pictureWidth + pixel.x) pixel.color (index_lt inside)⟩
  else frame

/-- The colours of one line, if the line is in the picture. -/
def line? (frame : FrameBuffer) (y : Nat) : Option (List Color) :=
  if y < pictureHeight then
    some ((frame.pixels.toList.drop (y * pictureWidth)).take pictureWidth)
  else none

/-- Four bytes for each pixel, line by line. -/
def toList (frame : FrameBuffer) : List UInt8 := frame.pixels.toList.flatMap Color.toList

/-- Replace the front of a surface by the bytes of the picture, as far as both reach. -/
def copyTo (frame : FrameBuffer) (surface : List UInt8) : List UInt8 :=
  let bytes := frame.toList
  bytes.take surface.length ++ surface.drop bytes.length

/-- A drawn pixel is seen at its place. -/
theorem get?_draw_self (frame : FrameBuffer) (pixel : Pixel)
    (inside : pixel.x < pictureWidth ∧ pixel.y < pictureHeight) :
    (frame.draw pixel).get? pixel.x pixel.y = some pixel.color := by
  simp [draw, get?, inside]

/-- Every other place stays as it was. -/
theorem get?_draw_of_ne (frame : FrameBuffer) (pixel : Pixel) {x y : Nat}
    (other : ¬(x = pixel.x ∧ y = pixel.y)) :
    (frame.draw pixel).get? x y = frame.get? x y := by
  unfold draw
  split
  · rename_i drawn
    unfold get?
    split
    · rename_i inside
      have apart : pixel.y * pictureWidth + pixel.x ≠ y * pictureWidth + x := by
        simp only [pictureWidth] at *
        omega
      simp [apart]
    · rfl
  · rfl

end FrameBuffer

/-- A frame buffer in use. -/
structure Screen where
  /-- What has been drawn. -/
  frame : FrameBuffer
  /-- How many pixels have been drawn so far. -/
  drawn : Nat

namespace Screen

/-- A screen before its first pixel. -/
def blank : Screen := ⟨FrameBuffer.blank, 0⟩

/-- Draw the pixel of a dot, if the dot has one. -/
def draw (screen : Screen) : Option Pixel → Screen
  | some pixel => ⟨screen.frame.draw pixel, screen.drawn + 1⟩
  | none => screen

end Screen

end Nes
