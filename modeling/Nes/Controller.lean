import Nes.Word

/-!
# Controllers

A controller holds eight buttons and a shift register. A write to its address copies the buttons
into the register, and each read shifts one of them out, the most significant first. Zeros follow
the eighth.
-/
namespace Nes

/-- The buttons of a controller. -/
inductive Button where
  | a | b | select | start | up | down | left | right
deriving DecidableEq

/-- The bit of a button, so that buttons are shifted out in the order of their declaration. -/
def Button.mask : Button → UInt8
  | a => 0x80
  | b => 0x40
  | select => 0x20
  | start => 0x10
  | up => 0x08
  | down => 0x04
  | left => 0x02
  | right => 0x01

/-- A controller in its socket. -/
structure Controller where
  /-- The buttons held down now. -/
  buttons : UInt8
  /-- The buttons still to be shifted out. -/
  shift : UInt8
deriving DecidableEq

namespace Controller

/-- A controller with nothing pressed. -/
def powerOn : Controller := ⟨0, 0⟩

/-- Press or release one button. -/
def setButton (controller : Controller) (button : Button) (pressed : Bool) : Controller :=
  { controller with
    buttons :=
      if pressed then controller.buttons ||| button.mask
      else controller.buttons &&& ~~~button.mask }

/-- Whether a button is held down now. -/
def isPressed (controller : Controller) (button : Button) : Bool :=
  controller.buttons &&& button.mask != 0

/-- A write copies the buttons into the shift register. -/
def latch (controller : Controller) : Controller :=
  { controller with shift := controller.buttons }

/-- A read gives the next button and shifts. -/
def read (controller : Controller) : UInt8 × Controller :=
  ((bit controller.shift 7).toUInt8, { controller with shift := controller.shift <<< 1 })

end Controller

end Nes
