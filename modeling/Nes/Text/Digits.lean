/-!
# Numbers as text

Numbers are read from decimal digits and written with hexadecimal ones, and bytes are written and
read as pairs of hexadecimal digits. Only the digits of ASCII count; signs, blanks and separators
do not belong to a number here.
-/
namespace Nes

/-- The number that decimal digits stand for; there must be at least one, and nothing else. -/
def decimal? (digits : List Char) : Option Nat :=
  if digits.isEmpty || !digits.all Char.isDigit then none
  else some (digits.foldl (fun value digit => 10 * value + (digit.toNat - '0'.toNat)) 0)

/-- The value of a hexadecimal digit in either case. -/
def hexDigit? (digit : Char) : Option Nat :=
  if '0' ≤ digit ∧ digit ≤ '9' then some (digit.toNat - '0'.toNat)
  else if 'a' ≤ digit ∧ digit ≤ 'f' then some (digit.toNat - 'a'.toNat + 10)
  else if 'A' ≤ digit ∧ digit ≤ 'F' then some (digit.toNat - 'A'.toNat + 10)
  else none

/-- The hexadecimal digits of a number in upper case, filled up with zeros to a width. -/
def upperHex (width value : Nat) : String :=
  let digits := (Nat.toDigits 16 value).map Char.toUpper
  String.ofList (List.replicate (width - digits.length) '0' ++ digits)

/-- The two hexadecimal digits of each byte, in lower case. -/
def hexText (bytes : List UInt8) : String :=
  bytes.foldl (fun text byte =>
    (text.push (Nat.digitChar (byte.toNat / 16))).push (Nat.digitChar (byte.toNat % 16))) ""

/-- The bytes that pairs of hexadecimal digits stand for. Reading ends where no pair is left. -/
def bytesOfHex : List Char → List UInt8
  | high :: low :: rest =>
    match hexDigit? high, hexDigit? low with
    | some high, some low => (16 * high + low).toUInt8 :: bytesOfHex rest
    | _, _ => []
  | _ => []

end Nes
