import Nes.Text.Digits

/-!
# Tokens of JSON

A JSON text is a sequence of brackets, separators, strings, numbers and names. Blanks between
them have no meaning; only space, tab, line feed and carriage return are blanks. Two values never
stand side by side in JSON, so taking the longest token at each place loses nothing.
-/
namespace Nes.Json

/-- The two kinds of brackets. -/
inductive Bracket where
  /-- Square brackets, around the elements of an array. -/
  | array
  /-- Curly brackets, around the members of an object. -/
  | object
deriving DecidableEq

/-- A token. -/
inductive Token where
  /-- An opening bracket. -/
  | opening (bracket : Bracket)
  /-- A closing bracket. -/
  | closing (bracket : Bracket)
  /-- A comma. -/
  | comma
  /-- A colon. -/
  | colon
  /-- A string; there is no text where escapes name halves of characters that do not meet. -/
  | string (text : Option String)
  /-- A number written with digits only. -/
  | natural (value : Nat)
  /-- A number with a sign, a fraction or an exponent. -/
  | number
  /-- One of the names `true`, `false` and `null`. -/
  | name
deriving DecidableEq

/-- Whether a character separates tokens without being one. -/
def isBlank (char : Char) : Bool :=
  char == ' ' || char == '\t' || char == '\n' || char == '\r'

/-- The character behind a backslash, except for escapes by number. -/
def escaped? (char : Char) : Option Char :=
  match char with
  | '"' => some '"'
  | '\\' => some '\\'
  | '/' => some '/'
  | 'b' => some '\x08'
  | 'f' => some '\x0c'
  | 'n' => some '\n'
  | 'r' => some '\r'
  | 't' => some '\t'
  | _ => none

/-- The number written with four hexadecimal digits. -/
def fourHexDigits? (a b c d : Char) : Option Nat := do
  let a ← hexDigit? a
  let b ← hexDigit? b
  let c ← hexDigit? c
  let d ← hexDigit? d
  some (((a * 16 + b) * 16 + c) * 16 + d)

/-- The code points up to the closing quote, in reverse, and the text behind the quote. An escape
by number may name half of a character. -/
def codePoints : List Char → List Nat → Option (List Nat × List Char)
  | '"' :: rest, reversed => some (reversed, rest)
  | '\\' :: 'u' :: a :: b :: c :: d :: rest, reversed =>
    match fourHexDigits? a b c d with
    | some point => codePoints rest (point :: reversed)
    | none => none
  | '\\' :: char :: rest, reversed =>
    match escaped? char with
    | some char => codePoints rest (char.toNat :: reversed)
    | none => none
  | char :: rest, reversed =>
    if char.toNat < 0x20 || char == '\\' then none
    else codePoints rest (char.toNat :: reversed)
  | [], _ => none

/-- Whether a code point is the first half of a character. -/
def isFirstHalf (point : Nat) : Bool := 0xD800 ≤ point && point < 0xDC00

/-- Whether a code point is the second half of a character. -/
def isSecondHalf (point : Nat) : Bool := 0xDC00 ≤ point && point < 0xE000

/-- The characters of code points; every half must meet its other half. -/
def joinHalves : List Nat → Option (List Char)
  | [] => some []
  | first :: second :: rest =>
    if isFirstHalf first && isSecondHalf second then
      let point := 0x10000 + (first - 0xD800) * 0x400 + (second - 0xDC00)
      (joinHalves rest).map (Char.ofNat point :: ·)
    else if isFirstHalf first || isSecondHalf first then none
    else (joinHalves (second :: rest)).map (Char.ofNat first :: ·)
  | [point] => if isFirstHalf point || isSecondHalf point then none else some [Char.ofNat point]

/-- A string behind its opening quote. -/
def stringToken (chars : List Char) : Option (Token × List Char) :=
  (codePoints chars []).map fun (reversed, rest) =>
    (.string ((joinHalves reversed.reverse).map String.ofList), rest)

/-- The digits at the front of a text, of which there must be one, and what follows them. -/
def someDigits (chars : List Char) : Option (List Char × List Char) :=
  let (digits, rest) := chars.span Char.isDigit
  if digits.isEmpty then none else some (digits, rest)

/-- Digits of which the first is a zero only if it is the last one too. -/
def wholeDigits : List Char → Option (List Char × List Char)
  | '0' :: rest => some (['0'], rest)
  | chars => someDigits chars

/-- What follows a fraction, and whether there is one. -/
def skipFraction : List Char → Option (Bool × List Char)
  | '.' :: rest => (someDigits rest).map fun (_, rest) => (true, rest)
  | chars => some (false, chars)

/-- A text without the sign at its front. -/
def skipSign : List Char → List Char
  | '+' :: rest => rest
  | '-' :: rest => rest
  | chars => chars

/-- What follows an exponent, and whether there is one. -/
def skipExponent : List Char → Option (Bool × List Char)
  | 'e' :: rest => (someDigits (skipSign rest)).map fun (_, rest) => (true, rest)
  | 'E' :: rest => (someDigits (skipSign rest)).map fun (_, rest) => (true, rest)
  | chars => some (false, chars)

/-- A number without a minus sign. -/
def numberToken (chars : List Char) : Option (Token × List Char) := do
  let (digits, rest) ← wholeDigits chars
  let (hasFraction, rest) ← skipFraction rest
  let (hasExponent, rest) ← skipExponent rest
  if hasFraction || hasExponent then some (.number, rest)
  else (decimal? digits).map fun value => (.natural value, rest)

/-- The token at the front of a text that does not begin with a blank. -/
def nextToken : List Char → Option (Token × List Char)
  | '[' :: rest => some (.opening .array, rest)
  | ']' :: rest => some (.closing .array, rest)
  | '\x7b' :: rest => some (.opening .object, rest)
  | '\x7d' :: rest => some (.closing .object, rest)
  | ',' :: rest => some (.comma, rest)
  | ':' :: rest => some (.colon, rest)
  | '"' :: rest => stringToken rest
  | '-' :: rest => (numberToken rest).map fun (_, rest) => (.number, rest)
  | 't' :: 'r' :: 'u' :: 'e' :: rest => some (.name, rest)
  | 'f' :: 'a' :: 'l' :: 's' :: 'e' :: rest => some (.name, rest)
  | 'n' :: 'u' :: 'l' :: 'l' :: rest => some (.name, rest)
  | chars => numberToken chars

/-- The tokens of a text, at most a number of them. -/
def tokensUpTo : Nat → List Char → List Token → Option (List Token)
  | 0, _, _ => none
  | limit + 1, chars, reversed =>
    match chars.dropWhile isBlank with
    | [] => some reversed.reverse
    | chars =>
      match nextToken chars with
      | some (token, rest) => tokensUpTo limit rest (token :: reversed)
      | none => none

/-- The tokens of a text, if it consists of tokens. Each of them takes a character at least. -/
def tokens (text : String) : Option (List Token) :=
  let chars := text.toList
  tokensUpTo (chars.length + 1) chars []

end Nes.Json
