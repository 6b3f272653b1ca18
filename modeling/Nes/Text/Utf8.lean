/-!
# Text from bytes

File names are stored as UTF-8. A stored name need not be valid, so reading it must give some text
for any bytes: valid text is taken as it is, and otherwise each ill-formed run, which is the
longest prefix of a well-formed sequence or a single byte, becomes one replacement character.
-/
namespace Nes.Utf8

/-- The character that stands for an ill-formed run. -/
def replacement : Char := '\uFFFD'

/-- A sequence that has begun and is well-formed so far. -/
structure Pending where
  /-- The bits of the code point seen so far. -/
  value : UInt32
  /-- How many bytes are still to come after the next. -/
  more : Nat
  /-- The least byte that may come next. -/
  low : UInt8
  /-- The greatest byte that may come next. -/
  high : UInt8

/-- What a byte is at the start of a sequence. -/
inductive Start where
  /-- A whole sequence. -/
  | whole (char : Char)
  /-- The first byte of a longer sequence. -/
  | pending (pending : Pending)
  /-- No start. -/
  | illFormed

/-- Classify a byte at the start of a sequence. The bounds of the second byte rule out overlong
forms, surrogates and code points past the last. -/
def start (byte : UInt8) : Start :=
  if byte < 0x80 then .whole (Char.ofUInt8 byte)
  else if byte < 0xC2 then .illFormed
  else if byte < 0xE0 then .pending ⟨(byte &&& 0x1F).toUInt32, 0, 0x80, 0xBF⟩
  else if byte = 0xE0 then .pending ⟨(byte &&& 0x0F).toUInt32, 1, 0xA0, 0xBF⟩
  else if byte = 0xED then .pending ⟨(byte &&& 0x0F).toUInt32, 1, 0x80, 0x9F⟩
  else if byte < 0xF0 then .pending ⟨(byte &&& 0x0F).toUInt32, 1, 0x80, 0xBF⟩
  else if byte = 0xF0 then .pending ⟨(byte &&& 0x07).toUInt32, 2, 0x90, 0xBF⟩
  else if byte < 0xF4 then .pending ⟨(byte &&& 0x07).toUInt32, 2, 0x80, 0xBF⟩
  else if byte = 0xF4 then .pending ⟨(byte &&& 0x07).toUInt32, 2, 0x80, 0x8F⟩
  else .illFormed

/-- The characters decoded before a byte sequence ends, given those so far in reverse and the
sequence that has begun. -/
def replaceIllFormed : List UInt8 → Option Pending → List Char → List Char
  | [], none, done => done.reverse
  | [], some _, done => (replacement :: done).reverse
  | byte :: rest, none, done =>
    match start byte with
    | .whole char => replaceIllFormed rest none (char :: done)
    | .pending pending => replaceIllFormed rest (some pending) done
    | .illFormed => replaceIllFormed rest none (replacement :: done)
  | byte :: rest, some pending, done =>
    if pending.low ≤ byte ∧ byte ≤ pending.high then
      let value := pending.value * 64 + (byte &&& 0x3F).toUInt32
      match pending.more with
      | 0 => replaceIllFormed rest none (Char.ofNat value.toNat :: done)
      | more + 1 => replaceIllFormed rest (some ⟨value, more, 0x80, 0xBF⟩) done
    else
      match start byte with
      | .whole char => replaceIllFormed rest none (char :: replacement :: done)
      | .pending pending => replaceIllFormed rest (some pending) (replacement :: done)
      | .illFormed => replaceIllFormed rest none (replacement :: replacement :: done)

/-- The text of any bytes. -/
def decodeLossy (bytes : List UInt8) : String :=
  (String.fromUTF8? ⟨bytes.toArray⟩).getD (String.ofList (replaceIllFormed bytes none []))

end Nes.Utf8
