import Nes.Text.Digits

/-!
# Options of the command line

Arguments are taken one by one. The value of an option may stand behind an equals sign or as the
next argument, which is then no option itself; it is looked at when the next argument is known
not to be that value, before that argument is. A text without dashes is the ROM, and so is every
text behind two lone dashes. Asking for help or for the version ends the reading where it stands;
so does a fault.
-/
namespace Nes.CommandLine

/-- What the program is asked to do. -/
structure Options where
  /-- The file of the cartridge image. -/
  rom : String
  /-- The number of frames to run. -/
  frames : Option Nat
  /-- The file of the settings. -/
  settings : String
  /-- The slot to use in place of the one in the settings. -/
  stateSlot : Option UInt8
  /-- The file for a picture of the last frame. -/
  screenshot : Option String
  /-- No window is to be opened. -/
  headless : Bool
  /-- How much is to be logged. -/
  verbosity : Nat
deriving DecidableEq

/-- What a command line asks for. -/
inductive Request where
  /-- To run the program. -/
  | run (options : Options)
  /-- To show the help text. -/
  | help
  /-- To show the version. -/
  | version
  /-- Nothing that could be done. -/
  | misuse
deriving DecidableEq

/-- The options that take a value. -/
inductive ValueOption where
  | frames | settings | stateSlot | screenshot
deriving DecidableEq

/-- The name of an option that takes a value. -/
def ValueOption.name : ValueOption → String
  | frames => "frames"
  | settings => "config"
  | stateSlot => "state-slot"
  | screenshot => "screenshot"

/-- The option of a name. -/
def ValueOption.ofName? (name : String) : Option ValueOption :=
  [frames, settings, stateSlot, screenshot].find? (·.name == name)

/-- The options without a value. -/
inductive Switch where
  | headless | verbose | help | version
deriving DecidableEq

/-- The name of an option without a value. -/
def Switch.name : Switch → String
  | headless => "headless"
  | verbose => "verbose"
  | help => "help"
  | version => "version"

/-- The switch of a name. -/
def Switch.ofName? (name : String) : Option Switch :=
  [headless, verbose, help, version].find? (·.name == name)

/-- The switch of a letter. -/
def Switch.ofLetter? (letter : Char) : Option Switch :=
  if letter = 'v' then some verbose
  else if letter = 'h' then some help
  else if letter = 'V' then some version
  else none

/-- A number of frames: digits, with a plus sign or without. -/
def frameCount? (text : String) : Option Nat :=
  let digits := match text.toList with
    | '+' :: digits => digits
    | digits => digits
  (decimal? digits).bind fun value => if value < UInt64.size then some value else none

/-- A number that fits into a byte. -/
def byte? (value : Nat) : Option UInt8 := if value < UInt8.size then some value.toUInt8 else none

/-- A slot: digits with a sign or without; minus zero is zero. -/
def slot? (text : String) : Option UInt8 :=
  match text.toList with
  | '-' :: digits => (decimal? digits).bind fun value => if value = 0 then some 0 else none
  | '+' :: digits => (decimal? digits).bind byte?
  | digits => (decimal? digits).bind byte?

/-- A file, which must have a name. -/
def file? (text : String) : Option String := if text.isEmpty then none else some text

/-- Options read in part. -/
structure Draft where
  /-- The file of the cartridge image. -/
  rom : Option String
  /-- The number of frames. -/
  frames : Option Nat
  /-- The file of the settings. -/
  settings : Option String
  /-- The slot. -/
  stateSlot : Option UInt8
  /-- The file for a picture. -/
  screenshot : Option String
  /-- No window is to be opened. -/
  headless : Bool
  /-- How much is to be logged. -/
  verbosity : Nat

namespace Draft

/-- A draft before the first argument. -/
def empty : Draft := ⟨none, none, none, none, none, false, 0⟩

/-- Set an option once. -/
def setOnce {α : Type} (old new : Option α) : Option (Option α) :=
  if old.isSome || new.isNone then none else some new

/-- Give an option its value; an option has one value only. -/
def assign (draft : Draft) (option : ValueOption) (text : String) : Option Draft :=
  match option with
  | .frames => (setOnce draft.frames (frameCount? text)).map ({ draft with frames := · })
  | .settings => (setOnce draft.settings (file? text)).map ({ draft with settings := · })
  | .stateSlot => (setOnce draft.stateSlot (slot? text)).map ({ draft with stateSlot := · })
  | .screenshot => (setOnce draft.screenshot (file? text)).map ({ draft with screenshot := · })

/-- Take the ROM, of which there is one only. -/
def assignRom (draft : Draft) (text : String) : Option Draft :=
  (setOnce draft.rom (file? text)).map ({ draft with rom := · })

/-- Take a switch, which may be the end of the reading. -/
def flip (draft : Draft) : Switch → Except Request Draft
  | .headless => if draft.headless then .error .misuse else .ok { draft with headless := true }
  | .verbose => .ok { draft with verbosity := draft.verbosity + 1 }
  | .help => .error .help
  | .version => .error .version

/-- Take the letters behind a single dash. -/
def flipLetters (draft : Draft) (letters : List Char) : Except Request Draft :=
  letters.foldlM (fun draft letter =>
    match Switch.ofLetter? letter with
    | some switch => draft.flip switch
    | none => .error .misuse) draft

/-- What a draft asks for once all arguments are read. -/
def finish (draft : Draft) : Request :=
  match draft.rom with
  | none => .misuse
  | some rom => .run {
      rom
      frames := draft.frames
      settings := draft.settings.getD "famicore.json"
      stateSlot := draft.stateSlot
      screenshot := draft.screenshot
      headless := draft.headless
      verbosity := draft.verbosity }

end Draft

/-- The kinds of arguments. -/
inductive Argument where
  /-- Two lone dashes. -/
  | endOfOptions
  /-- A name behind two dashes, and what follows an equals sign. -/
  | long (name : String) (attached : Option String)
  /-- Letters behind one dash. -/
  | letters (letters : List Char)
  /-- Any other text; a lone dash is one. -/
  | text (text : String)

/-- The kind of an argument. -/
def Argument.ofText (text : String) : Argument :=
  match text.toList with
  | ['-'] => .text text
  | ['-', '-'] => .endOfOptions
  | '-' :: '-' :: body =>
    match body.span (· ≠ '=') with
    | (name, _ :: value) => .long (String.ofList name) (some (String.ofList value))
    | (name, []) => .long (String.ofList name) none
  | '-' :: body => .letters body
  | _ => .text text

/-- Go on with a draft unless something was wrong with it. -/
def orMisuse (draft : Option Draft) (next : Draft → Request) : Request :=
  match draft with
  | some draft => next draft
  | none => .misuse

/-- Read arguments behind two lone dashes. -/
def readTexts : List String → Draft → Request
  | [], draft => draft.finish
  | text :: rest, draft => orMisuse (draft.assignRom text) (readTexts rest)

/-- Read arguments. -/
def readArguments : List String → Draft → Request
  | [], draft => draft.finish
  | argument :: rest, draft =>
    match Argument.ofText argument with
    | .endOfOptions => readTexts rest draft
    | .letters letters =>
      match draft.flipLetters letters with
      | .ok draft => readArguments rest draft
      | .error request => request
    | .text text => orMisuse (draft.assignRom text) (readArguments rest)
    | .long name attached =>
      match ValueOption.ofName? name, Switch.ofName? name, attached, rest with
      | some option, _, some value, rest =>
        orMisuse (draft.assign option value) (readArguments rest)
      | some option, _, none, value :: rest =>
        match Argument.ofText value with
        | .text value => orMisuse (draft.assign option value) (readArguments rest)
        | _ => .misuse
      | some _, _, none, [] => .misuse
      | none, some switch, none, rest =>
        match draft.flip switch with
        | .ok draft => readArguments rest draft
        | .error request => request
      | none, _, _, _ => .misuse

/-- What the arguments of the program ask for. -/
def request (arguments : List String) : Request := readArguments arguments .empty

end Nes.CommandLine
