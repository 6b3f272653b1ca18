import Nes.Proofs.Cartridge.ImageParts

/-!
# Bank counts of the extended revision

An image of the extended revision may have up to 2047 banks of either memory. Byte 8 of its header
has the three high bits of both counts, those of the program count in its low digit and those of
the character count three bits above. Only the former are brought to their places, so an image is
read with the counts that it was written for exactly if it has fewer than 256 character banks.
-/
namespace Nes

namespace ImageHeader

/-- A header of the extended revision that is written for the given bank counts. -/
structure WrittenFor (header : Memory 16) (programs characters : Nat) : Prop where
  /-- The header is marked for the revision. -/
  extended : IsExtended header
  /-- Byte 4 is the low byte of the program count. -/
  program_low : (header.read 4).toNat = programs % 256
  /-- Byte 5 is the low byte of the character count. -/
  character_low : (header.read 5).toNat = characters % 256
  /-- The high bits of the counts stand side by side. -/
  high : (header.read 8).toNat = programs / 256 + 8 * (characters / 256)

variable {header : Memory 16} {programs characters : Nat}
  (written : WrittenFor header programs characters) (programs_lt : programs < 2048)
  (characters_lt : characters < 2048)

include written programs_lt

/-- The program count that is read from a header written for some counts is the one that was
written. -/
theorem programCount_of_writtenFor : programCount header = programs := by
  rw [programCount, if_pos written.extended, written.program_low, written.high]
  omega

include characters_lt

/-- The high part of the character count is taken eight times. -/
theorem characterCount_of_writtenFor :
    characterCount header = characters % 256 + 2048 * (characters / 256) := by
  rw [characterCount, if_pos written.extended, written.character_low, written.high]
  omega

/-- The character count is taken as it is written just below 256. -/
theorem characterCount_eq_iff : characterCount header = characters ↔ characters < 256 := by
  rw [characterCount_of_writtenFor written programs_lt characters_lt]
  omega

end ImageHeader

namespace Cartridge

/-- The bank counts of a cartridge are those of the header of its image. -/
theorem banks_of_ofImage {image : ByteArray} {cartridge : Cartridge}
    (read : ofImage image = .ok cartridge) :
    cartridge.banks = (ImageHeader.ofMemory (headerMemory image)).banks := by
  obtain ⟨-, board, -, rfl⟩ := assemble_of_ofImage read
  rfl

/-- An image of the extended revision for a supported board gives a cartridge with the counts and
the memories that it was written with exactly if it has fewer than 256 character banks. Any other
such image that ends with its character memory is found to lack 1792 banks for every 256 that it
has. -/
theorem fill_extended_iff {parts : ImageParts} {programs characters : Nat}
    (measured : parts.Measured programs characters)
    (written : ImageHeader.WrittenFor parts.header programs characters)
    (programs_lt : programs < 2048) (characters_lt : characters < 2048)
    (supported : ImageHeader.boardDigits parts.header ∈ ImageHeader.supportedBoards) :
    ((∃ cartridge, ofImage parts.image = .ok cartridge ∧
        parts.Fill programs characters cartridge) ↔ characters < 256) ∧
      (256 ≤ characters → parts.tail = [] →
        ofImage parts.image = .error (.truncated
          (parts.image.size + 8192 * (1792 * (characters / 256))) parts.image.size)) := by
  have programCount := ImageHeader.programCount_of_writtenFor written programs_lt
  have characterCount :=
    ImageHeader.characterCount_of_writtenFor written programs_lt characters_lt
  have exact_iff := ImageHeader.characterCount_eq_iff written programs_lt characters_lt
  refine ⟨⟨?_, ?_⟩, ?_⟩
  · rintro ⟨cartridge, read, filled⟩
    have banks := banks_of_ofImage read
    rw [ImageParts.headerMemory_image] at banks
    rw [← exact_iff, ← ImageHeader.toNat_characterBanks, ← banks, filled.character_count]
  · intro few
    rw [← exact_iff] at few
    rw [← programCount, ← few] at measured
    obtain ⟨cartridge, read, filled⟩ := ImageParts.ofImage_image measured
    rw [programCount, few] at filled
    rw [answerFor, if_pos supported] at read
    exact ⟨cartridge, read, filled⟩
  · intro many ended
    have size := ImageParts.size_image measured
    rw [ended, List.length_nil] at size
    have promised : ImageHeader.promisedSize (headerMemory parts.image)
        = parts.image.size + 8192 * (1792 * (characters / 256)) := by
      rw [ImageParts.headerMemory_image, ImageHeader.promisedSize, programCount, characterCount,
        size]
      omega
    have cut : parts.image.size < ImageHeader.promisedSize (headerMemory parts.image) := by
      rw [promised]
      omega
    rw [← promised]
    exact ofImage_of_cut parts.headed_image (ImageParts.marked_image measured) cut

/-- Parts of an image with one program bank and 256 character banks for the plainest board. -/
def manyCharacterParts : ImageParts where
  header := .ofList [0x4E, 0x45, 0x53, 0x1A, 1, 0, 0, 0x08, 8, 0, 0, 0, 0, 0, 0, 0] rfl
  trainer := []
  program := List.replicate 16384 0
  character := List.replicate (8192 * 256) 0
  tail := []

/-- The image of these parts is refused, although it is complete. -/
theorem fill_extended_iff_manyCharacterParts :
    (¬∃ cartridge, ofImage manyCharacterParts.image = .ok cartridge ∧
      manyCharacterParts.Fill 1 256 cartridge) ∧
    ofImage manyCharacterParts.image = .error (.truncated
      (manyCharacterParts.image.size + 8192 * 1792) manyCharacterParts.image.size) := by
  have measured : manyCharacterParts.Measured 1 256 :=
    ⟨by decide, rfl, List.length_replicate, List.length_replicate⟩
  have written : ImageHeader.WrittenFor manyCharacterParts.header 1 256 :=
    ⟨by decide, by decide, by decide, by decide⟩
  obtain ⟨filled_iff, refused⟩ :=
    fill_extended_iff measured written (by decide) (by decide) (by decide)
  have blocks : 1792 * (256 / 256) = 1792 := rfl
  rw [blocks] at refused
  refine ⟨?_, refused (by decide) rfl⟩
  intro filled
  exact absurd (filled_iff.1 filled) (by decide)

end Cartridge

end Nes
