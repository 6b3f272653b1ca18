import Nes.Storage.Basic
import Nes.Text.Json

/-!
# Settings

Settings are kept in a JSON file. A file may leave settings out, and may hold members that are no
settings, so files of other versions can be read. The file is an object with named settings, or
an array of settings in the order of their declaration.
-/
namespace Nes

/-- The settings of the program. -/
structure Settings where
  /-- The slot that quick saves and loads use. -/
  stateSlot : UInt8
  /-- The number of screen pixels along the side of a picture pixel. -/
  windowScale : UInt32
  /-- How many frames are left out between two that are drawn. -/
  frameSkip : UInt32
deriving DecidableEq

/-- Why there are no settings in a file. -/
inductive SettingsFault where
  /-- The file could not be read as text. -/
  | unreadable
  /-- The text is not that of settings. -/
  | malformed
deriving DecidableEq

/-- The settings by name. -/
inductive SettingName where
  | stateSlot | windowScale | frameSkip
deriving DecidableEq

namespace SettingName

/-- The settings in the order of their declaration. -/
def all : List SettingName := [stateSlot, windowScale, frameSkip]

/-- The key of a setting in an object. -/
def key : SettingName → String
  | stateSlot => "state_slot"
  | windowScale => "window_scale"
  | frameSkip => "frame_skip"

/-- The setting of a key. -/
def ofKey? (key : String) : Option SettingName := all.find? (·.key == key)

end SettingName

namespace Settings

/-- The settings that hold where a file does not say otherwise. -/
def standard : Settings := ⟨0, 3, 0⟩

/-- Change one setting to a value in its range. -/
def assign (settings : Settings) (name : SettingName) (value : Json) : Option Settings :=
  match name, value with
  | .stateSlot, .natural value =>
    if value < UInt8.size then some { settings with stateSlot := value.toUInt8 } else none
  | .windowScale, .natural value =>
    if value < UInt32.size then some { settings with windowScale := value.toUInt32 } else none
  | .frameSkip, .natural value =>
    if value < UInt32.size then some { settings with frameSkip := value.toUInt32 } else none
  | _, _ => none

/-- Assign settings in order. -/
def assignAll (values : List (SettingName × Json)) : Option Settings :=
  values.foldlM (fun settings (name, value) => settings.assign name value) standard

/-- The members of an object that are settings. Every key must have a text, and no setting may
stand twice. -/
def named (members : List (Option String × Json)) : Option (List (SettingName × Json)) := do
  let members ← members.mapM fun (key, value) => key.map (·, value)
  let values := members.filterMap fun (key, value) => (SettingName.ofKey? key).map (·, value)
  if (values.map Prod.fst).Nodup then some values else none

/-- The settings in a JSON value. -/
def ofJson? : Json → Option Settings
  | .object members => (named members).bind assignAll
  | .array elements =>
    if elements.length ≤ SettingName.all.length then assignAll (SettingName.all.zip elements)
    else none
  | _ => none

/-- The settings in the contents of a file. -/
def ofFile (contents : FileContents) : Except SettingsFault Settings :=
  match contents with
  | .error _ => .error .unreadable
  | .ok bytes =>
    match String.fromUTF8? bytes with
    | none => .error .unreadable
    | some text =>
      match (Json.parse? text).bind ofJson? with
      | none => .error .malformed
      | some settings => .ok settings

/-- The settings in the contents of a file, or else the standard ones. The warning that the log then
has is left out. -/
def ofFileOrStandard (contents : FileContents) : Settings :=
  match ofFile contents with
  | .ok settings => settings
  | .error _ => standard

/-- One line of the text of settings. -/
def line (name : SettingName) (value : Nat) : String := s!"  \"{name.key}\": {value}"

/-- The text of settings as it stands in a file. -/
def toText (settings : Settings) : String :=
  let lines := [
    line .stateSlot settings.stateSlot.toNat,
    line .windowScale settings.windowScale.toNat,
    line .frameSkip settings.frameSkip.toNat]
  "\x7b\n" ++ String.intercalate ",\n" lines ++ "\n\x7d"

/-- Whether a frame is drawn, counting from zero. -/
def draws (settings : Settings) (frame : Nat) : Bool := frame % (settings.frameSkip.toNat + 1) == 0

end Settings

end Nes
