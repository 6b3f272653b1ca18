import Nes.Text.JsonToken

/-!
# JSON

`Json.parse?` reads a JSON text. The reader keeps the containers that are still open in a list,
so it takes each token once, and nesting may be as deep as the text is long. Numbers are kept
only where they are natural, which is all that is asked of them here.
-/
namespace Nes

/-- A JSON value. -/
inductive Json where
  /-- One of the names `true`, `false` and `null`. -/
  | name
  /-- A natural number. -/
  | natural (value : Nat)
  /-- Another number. -/
  | number
  /-- A string, if it has a text. -/
  | string (text : Option String)
  /-- An array. -/
  | array (elements : List Json)
  /-- An object with its members in order; keys may be repeated. -/
  | object (members : List (Option String × Json))

namespace Json

/-- A container that is still open, with what stands in it so far, the latest first. -/
inductive Frame where
  /-- An array. -/
  | array (reversed : List Json)
  /-- An object, and the key of the member under way. -/
  | object (reversed : List (Option String × Json)) (key : Option String)

/-- What may come next. -/
inductive Expected where
  /-- A value. -/
  | value
  /-- A value, or the end of an empty array. -/
  | elementOrEnd
  /-- A key. -/
  | key
  /-- A key, or the end of an empty object. -/
  | keyOrEnd
  /-- The colon behind a key. -/
  | colon
  /-- A comma, or the end of the container. -/
  | commaOrEnd
  /-- The end of the text behind its value. -/
  | nothing (value : Json)

/-- A text read in part. -/
structure Progress where
  /-- What may come next. -/
  expected : Expected
  /-- The containers that are open, the innermost first. -/
  frames : List Frame

namespace Progress

/-- Put a value where the text stands. -/
def put (value : Json) : List Frame → Progress
  | [] => ⟨.nothing value, []⟩
  | .array reversed :: frames => ⟨.commaOrEnd, .array (value :: reversed) :: frames⟩
  | .object reversed key :: frames =>
    ⟨.commaOrEnd, .object ((key, value) :: reversed) none :: frames⟩

/-- A token where a value stands. -/
def takeValue (frames : List Frame) : Token → Option Progress
  | .opening .array => some ⟨.elementOrEnd, .array [] :: frames⟩
  | .opening .object => some ⟨.keyOrEnd, .object [] none :: frames⟩
  | .string text => some (put (.string text) frames)
  | .natural value => some (put (.natural value) frames)
  | .number => some (put .number frames)
  | .name => some (put .name frames)
  | _ => none

/-- A token where a key stands. -/
def takeKey (frames : List Frame) (token : Token) : Option Progress :=
  match frames, token with
  | .object reversed _ :: frames, .string key => some ⟨.colon, .object reversed key :: frames⟩
  | _, _ => none

/-- A closing bracket, which must fit the innermost container. -/
def takeEnd (frames : List Frame) (token : Token) : Option Progress :=
  match frames, token with
  | .array reversed :: frames, .closing .array => some (put (.array reversed.reverse) frames)
  | .object reversed _ :: frames, .closing .object => some (put (.object reversed.reverse) frames)
  | _, _ => none

/-- A comma, behind which an array goes on with a value and an object with a key. -/
def takeComma (frames : List Frame) : Option Progress :=
  match frames with
  | .array _ :: _ => some ⟨.value, frames⟩
  | .object _ _ :: _ => some ⟨.key, frames⟩
  | [] => none

/-- The text with one more token. -/
def take (state : Progress) (token : Token) : Option Progress :=
  match state.expected with
  | .value => takeValue state.frames token
  | .elementOrEnd => (takeEnd state.frames token).or (takeValue state.frames token)
  | .key => takeKey state.frames token
  | .keyOrEnd => (takeEnd state.frames token).or (takeKey state.frames token)
  | .colon => if token = .colon then some ⟨.value, state.frames⟩ else none
  | .commaOrEnd => if token = .comma then takeComma state.frames else takeEnd state.frames token
  | .nothing _ => none

/-- The value of a text read to its end. -/
def value? (state : Progress) : Option Json :=
  match state.expected with
  | .nothing value => some value
  | _ => none

end Progress

/-- The value of a text, if it is one JSON value between blanks. -/
def parse? (text : String) : Option Json := do
  let tokens ← tokens text
  let state ← tokens.foldlM Progress.take ⟨.value, []⟩
  state.value?

end Json

end Nes
