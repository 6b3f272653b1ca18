import Nes.Proofs.Cartridge.Accepted

/-!
# The parts of an image

The bytes of a header are read as numbers here: two bank counts, the size of the trainer and the
number of the board. They decide, with the length of an image, which answer `Cartridge.ofImage`
gives (`Cartridge.Answers`), and an image put together from its parts gives exactly the memories
that were put in, wherever a trainer moves them to and whatever follows them.

In the extended revision byte 8 has the high bits of both counts. Those of the program count are
brought to their places. Those of the character count, which stand three bits further up in the
byte, stay three bits too far up, so that a count of 256 or more is read eight times too large in
its high part and the image is found to be cut off.
-/
namespace Nes

namespace ImageHeader

variable (header : Memory 16)

/-- The header is marked for the extended revision. -/
def IsExtended : Prop := header.read 7 &&& 0x0C = 0x08

instance : Decidable (IsExtended header) := inferInstanceAs (Decidable (_ = _))

/-- The number of program banks that a header is taken to ask for. -/
def programCount : Nat :=
  (header.read 4).toNat + if IsExtended header then 256 * ((header.read 8).toNat % 8) else 0

/-- The number of character banks that a header is taken to ask for. -/
def characterCount : Nat :=
  (header.read 5).toNat + if IsExtended header then 2048 * ((header.read 8).toNat / 8 % 8) else 0

/-- The size of the trainer that a header announces. -/
def trainerSize : Nat := if bit (header.read 6) 2 then 512 else 0

/-- The size that an image with this header must have. -/
def promisedSize : Nat :=
  16 + trainerSize header + 16384 * programCount header + 8192 * characterCount header

/-- The number of the board: the high halves of bytes 7 and 6 as two digits. -/
def boardDigits : Nat := 16 * ((header.read 7).toNat / 16) + (header.read 6).toNat / 16

/-- The numbers of the boards that there are. -/
def supportedBoards : List Nat := [0, 1, 2, 3, 4, 66]

variable {header} in
/-- In the extended revision the high byte of each count is cut out of byte 8. -/
theorem banks_of_extended (extended : IsExtended header) :
    (ofMemory header).banks = ⟨wordOf (header.read 4) (header.read 8 &&& 0x07),
      wordOf (header.read 5) (header.read 8 &&& 0x38)⟩ := by
  change bankCounts (if IsExtended header then .extended else .plain) header = _
  rw [if_pos extended]
  rfl

variable {header} in
/-- In the plain revision the counts are single bytes. -/
theorem banks_of_plain (plain : ¬IsExtended header) :
    (ofMemory header).banks = ⟨(header.read 4).toUInt16, (header.read 5).toUInt16⟩ := by
  change bankCounts (if IsExtended header then .extended else .plain) header = _
  rw [if_neg plain]
  rfl

/-- The program count is read as the number that the header is taken to ask for. -/
theorem toNat_programBanks :
    (ofMemory header).banks.program.toNat = programCount header := by
  by_cases extended : IsExtended header
  · have high : (header.read 8 &&& 0x07).toNat = (header.read 8).toNat % 8 := by
      rw [UInt8.toNat_and]
      exact Nat.and_two_pow_sub_one_eq_mod _ 3
    rw [banks_of_extended extended, programCount, if_pos extended, toNat_wordOf, high,
      Nat.add_comm]
  · rw [banks_of_plain extended, programCount, if_neg extended, UInt8.toNat_toUInt16, Nat.add_zero]

/-- So is the character count. -/
theorem toNat_characterBanks :
    (ofMemory header).banks.character.toNat = characterCount header := by
  by_cases extended : IsExtended header
  · have placed : ∀ byte < 256, byte &&& 0x38 = 8 * (byte / 8 % 8) := by decide +kernel
    have high : (header.read 8 &&& 0x38).toNat = 8 * ((header.read 8).toNat / 8 % 8) := by
      rw [UInt8.toNat_and]
      exact placed _ (header.read 8).toNat_lt
    rw [banks_of_extended extended, characterCount, if_pos extended, toNat_wordOf, high]
    omega
  · rw [banks_of_plain extended, characterCount, if_neg extended, UInt8.toNat_toUInt16,
      Nat.add_zero]

/-- The number of the board is read off the two digits. -/
theorem toNat_boardNumber : (ofMemory header).boardNumber.toNat = boardDigits header := by
  have placed : ∀ byte < 256, byte &&& 0xF0 = 2 ^ 4 * (byte / 16) := by decide +kernel
  have high : (header.read 7 &&& 0xF0).toNat = 2 ^ 4 * ((header.read 7).toNat / 16) := by
    rw [UInt8.toNat_and]
    exact placed _ (header.read 7).toNat_lt
  have low : (header.read 6 >>> 4).toNat = (header.read 6).toNat / 16 := by
    rw [UInt8.toNat_shiftRight]
    exact Nat.shiftRight_eq_div_pow _ 4
  have digit : (header.read 6).toNat / 16 < 2 ^ 4 := by
    have bound := (header.read 6).toNat_lt
    omega
  rw [show (ofMemory header).boardNumber = header.read 7 &&& 0xF0 ||| header.read 6 >>> (4 : UInt8)
    from rfl, UInt8.toNat_or, high, low, ← Nat.two_pow_add_eq_or_of_lt digit]
  rfl

/-- The number of a board is that of a byte. -/
theorem boardDigits_lt : boardDigits header < 256 := by
  have high := (header.read 7).toNat_lt
  have low := (header.read 6).toNat_lt
  rw [boardDigits]
  omega

/-- Program memory starts behind the header and the trainer. -/
theorem programStart_ofMemory : (ofMemory header).programStart = 16 + trainerSize header := rfl

/-- Program memory has 16 KiB for each bank. -/
theorem programSize_ofMemory : (ofMemory header).programSize = 16384 * programCount header := by
  rw [programSize, toNat_programBanks, Nat.mul_comm]
  rfl

/-- Character memory has 8 KiB for each bank. -/
theorem characterSize_ofMemory :
    (ofMemory header).characterSize = 8192 * characterCount header := by
  rw [characterSize, toNat_characterBanks, Nat.mul_comm]
  rfl

/-- An image ends with its character memory. -/
theorem imageSize_ofMemory : (ofMemory header).imageSize = promisedSize header := by
  rw [imageSize, programStart_ofMemory, programSize_ofMemory, characterSize_ofMemory]
  rfl

/-- No header promises less than its own size. -/
theorem header_le_promisedSize : 16 ≤ promisedSize header := by
  rw [promisedSize]
  omega

/-- There is a board of a number exactly if the number is supported. -/
theorem ofNumber?_of_supported {number : UInt8} (banks : BankCounts)
    (supported : number.toNat ∈ supportedBoards) :
    ∃ board, Board.ofNumber? number banks = some board := by
  have cases : ∀ digits ∈ supportedBoards,
      ∃ board, Board.ofNumber? (UInt8.ofNat digits) banks = some board := by
    simp only [supportedBoards, List.forall_mem_cons, List.not_mem_nil, false_implies,
      implies_true, and_true]
    exact ⟨⟨_, rfl⟩, ⟨_, rfl⟩, ⟨_, rfl⟩, ⟨_, rfl⟩, ⟨_, rfl⟩, ⟨_, rfl⟩⟩
  have found := cases _ supported
  rwa [UInt8.ofNat_toNat] at found

/-- There is no board of any other number. -/
theorem ofNumber?_of_unsupported {number : UInt8} (banks : BankCounts)
    (unsupported : number.toNat ∉ supportedBoards) : Board.ofNumber? number banks = none := by
  cases found : Board.ofNumber? number banks with
  | none => rfl
  | some board =>
    have own := Board.number_of_ofNumber? found
    have listed : board.number.toNat ∈ supportedBoards := by
      cases board <;> simp [Board.number, supportedBoards]
    rw [own] at listed
    exact absurd listed unsupported

end ImageHeader

namespace Cartridge

open ImageHeader

variable {image : ByteArray}

/-- The first bytes of an image that is long enough are the bytes of its header. -/
theorem toList_headerMemory (headed : 16 ≤ image.size) :
    (headerMemory image).toList = image.data.toList.take 16 := by
  have size : image.data.toList.length = image.size := rfl
  rw [headerMemory, Memory.toList_ofFn]
  apply List.ext_getElem
  · rw [List.length_ofFn, List.length_take, size]
    omega
  · intro index inside _
    rw [List.length_ofFn] at inside
    have within : index < image.size := by omega
    rw [List.getElem_ofFn, List.getElem_take, Array.getElem_toList]
    exact dif_pos within

/-- The image of a header and the bytes behind it. -/
def imageOf (header : Memory 16) (body : List UInt8) : ByteArray :=
  ⟨(header.toList ++ body).toArray⟩

/-- An image has its header in front of its body. -/
theorem size_imageOf (header : Memory 16) (body : List UInt8) :
    (imageOf header body).size = 16 + body.length := by
  change (header.toList ++ body).toArray.size = _
  rw [List.size_toArray, List.length_append, header.length_toList]

/-- The header of an image is the one that was put in front. -/
theorem headerMemory_imageOf (header : Memory 16) (body : List UInt8) :
    headerMemory (imageOf header body) = header := by
  have headed : 16 ≤ (imageOf header body).size := by
    rw [size_imageOf]
    exact Nat.le_add_right _ _
  have listed : (headerMemory (imageOf header body)).toList = header.toList := by
    rw [toList_headerMemory headed]
    exact List.take_left' header.length_toList
  calc
    _ = Memory.ofList _ (Memory.length_toList _) := (Memory.ofList_toList _).symm
    _ = Memory.ofList _ (Memory.length_toList _) := by simp only [listed]
    _ = header := Memory.ofList_toList _

/-- An image begins with the mark of the format. -/
def Marked (image : ByteArray) : Prop := image.data.toList.take 4 = [0x4E, 0x45, 0x53, 0x1A]

/-- The mark is looked for in the header, where the first bytes of the image are. -/
theorem marked_iff (headed : 16 ≤ image.size) :
    (headerMemory image).toList.take 4 = imageMark ↔ Marked image := by
  rw [toList_headerMemory headed, List.take_take]
  rfl

/-- An image without a whole header is cut off, whatever is in it. -/
theorem ofImage_of_headless (headless : image.size < 16) :
    ofImage image = .error (.truncated 16 image.size) := by
  rw [ofImage]
  exact if_pos headless

/-- An image with a whole header is not looked at any further without the mark. -/
theorem ofImage_of_unmarked (headed : 16 ≤ image.size) (unmarked : ¬Marked image) :
    ofImage image = .error .missingMark := by
  rw [← marked_iff headed] at unmarked
  simp only [ofImage, imageHeaderSize, if_neg (Nat.not_lt.2 headed), ne_eq, if_pos unmarked]

/-- A marked image that ends before its promised size is cut off there. -/
theorem ofImage_of_cut (headed : 16 ≤ image.size) (marked : Marked image)
    (cut : image.size < promisedSize (headerMemory image)) :
    ofImage image = .error (.truncated (promisedSize (headerMemory image)) image.size) := by
  rw [← marked_iff headed] at marked
  simp only [ofImage, imageHeaderSize, imageSize_ofMemory, if_neg (Nat.not_lt.2 headed),
    if_neg (not_not_intro marked), if_pos cut]

/-- The board that a cartridge is put on: the one of its number, or else the plainest one. -/
def OnBoard (header : Memory 16) (board : Board) : Prop :=
  FreshBoard (ImageHeader.ofMemory header).banks board ∧
    board.number.toNat = if boardDigits header ∈ supportedBoards then boardDigits header else 0

/-- The answer to an image whose size and mark are right: a cartridge, or an error that carries
it. -/
def answerFor (header : Memory 16) (cartridge : Cartridge) : Except ImageError Cartridge :=
  if boardDigits header ∈ supportedBoards then .ok cartridge
  else .error (.unsupportedBoard (UInt8.ofNat (boardDigits header)) cartridge)

/-- An image whose size and mark are right is refused for its board at most. -/
theorem answerFor_ne_refusal (header : Memory 16) (cartridge : Cartridge) :
    answerFor header cartridge ≠ .error .missingMark ∧
      ∀ expected actual, answerFor header cartridge ≠ .error (.truncated expected actual) := by
  rw [answerFor]
  split
  · exact ⟨nofun, fun _ _ => nofun⟩
  · exact ⟨nofun, fun _ _ => nofun⟩

/-- An image of its promised size is assembled on a board, whose number decides the answer. -/
theorem ofImage_of_whole (marked : Marked image)
    (whole : promisedSize (headerMemory image) ≤ image.size) :
    ∃ board, OnBoard (headerMemory image) board ∧ ofImage image = answerFor (headerMemory image)
      (assemble (ImageHeader.ofMemory (headerMemory image)) image board) := by
  have headed : 16 ≤ image.size := (header_le_promisedSize _).trans whole
  rw [← marked_iff headed] at marked
  let header := ImageHeader.ofMemory (headerMemory image)
  have digits : header.boardNumber.toNat = boardDigits (headerMemory image) :=
    toNat_boardNumber _
  have number : UInt8.ofNat (boardDigits (headerMemory image)) = header.boardNumber := by
    rw [← digits, UInt8.ofNat_toNat]
  simp only [ofImage, imageHeaderSize, imageSize_ofMemory, if_neg (Nat.not_lt.2 headed),
    if_neg (not_not_intro marked), if_neg (Nat.not_lt.2 whole), answerFor, OnBoard, number]
  by_cases supported : boardDigits (headerMemory image) ∈ supportedBoards
  · rw [← digits] at supported
    obtain ⟨board, found⟩ := ofNumber?_of_supported header.banks supported
    rw [digits] at supported
    refine ⟨board, ⟨freshBoard_of_ofNumber? found, ?_⟩, ?_⟩
    · rw [if_pos supported, ← digits, Board.number_of_ofNumber? found]
    · rw [if_pos supported, found]
  · rw [← digits] at supported
    have missing := ofNumber?_of_unsupported header.banks supported
    rw [digits] at supported
    refine ⟨.nrom (.powerOn header.banks), ⟨⟨rfl, trivial, rfl⟩, ?_⟩, ?_⟩
    · rw [if_neg supported]
      rfl
    · rw [if_neg supported, missing]

/-- The answers to an image, in the order in which it is checked. -/
structure Answers (image : ByteArray) : Prop where
  /-- The image is found to be without a whole header just where it is. -/
  headless : ofImage image = .error (.truncated 16 image.size) ↔ image.size < 16
  /-- Of the other images, the mark is missed just where it is not in place. -/
  unmarked : 16 ≤ image.size → (ofImage image = .error .missingMark ↔ ¬Marked image)
  /-- Of those with the mark, the size that the header promises is missed just where it is not
  reached. -/
  cut : 16 ≤ image.size → Marked image →
    (ofImage image = .error (.truncated (promisedSize (headerMemory image)) image.size) ↔
      image.size < promisedSize (headerMemory image))
  /-- Of those of that size, the board is refused just where there is none of its number. -/
  unsupported : Marked image → promisedSize (headerMemory image) ≤ image.size →
    ((∃ number standIn, number.toNat = boardDigits (headerMemory image) ∧
        ofImage image = .error (.unsupportedBoard number standIn)) ↔
      boardDigits (headerMemory image) ∉ supportedBoards)
  /-- All that are left are read. -/
  supported : Marked image → promisedSize (headerMemory image) ≤ image.size →
    ((∃ cartridge, ofImage image = .ok cartridge) ↔
      boardDigits (headerMemory image) ∈ supportedBoards)

/-- The answers to an image are decided by its size, its mark and its number. -/
theorem answers (image : ByteArray) : Answers image where
  headless := by
    constructor
    · intro answer
      apply Decidable.byContradiction
      intro headed
      rw [Nat.not_lt] at headed
      by_cases marked : Marked image
      · by_cases cut : image.size < promisedSize (headerMemory image)
        · rw [ofImage_of_cut headed marked cut] at answer
          injection answer with answer
          injection answer with promised
          omega
        · obtain ⟨board, -, read⟩ := ofImage_of_whole marked (Nat.not_lt.1 cut)
          rw [read] at answer
          exact (answerFor_ne_refusal _ _).2 _ _ answer
      · rw [ofImage_of_unmarked headed marked] at answer
        cases answer
    · exact ofImage_of_headless
  unmarked := by
    intro headed
    constructor
    · intro answer marked
      by_cases cut : image.size < promisedSize (headerMemory image)
      · rw [ofImage_of_cut headed marked cut] at answer
        cases answer
      · obtain ⟨board, -, read⟩ := ofImage_of_whole marked (Nat.not_lt.1 cut)
        rw [read] at answer
        exact (answerFor_ne_refusal _ _).1 answer
    · exact ofImage_of_unmarked headed
  cut := by
    intro headed marked
    constructor
    · intro answer
      apply Decidable.byContradiction
      intro whole
      obtain ⟨board, -, read⟩ := ofImage_of_whole marked (Nat.not_lt.1 whole)
      rw [read] at answer
      exact (answerFor_ne_refusal _ _).2 _ _ answer
    · exact ofImage_of_cut headed marked
  unsupported := by
    intro marked whole
    obtain ⟨board, -, read⟩ := ofImage_of_whole marked whole
    rw [read, answerFor]
    constructor
    · rintro ⟨number, standIn, -, answer⟩ supported
      rw [if_pos supported] at answer
      cases answer
    · intro unsupported
      rw [if_neg unsupported]
      exact ⟨_, _, UInt8.toNat_ofNat_of_lt' (boardDigits_lt _), rfl⟩
  supported := by
    intro marked whole
    obtain ⟨board, -, read⟩ := ofImage_of_whole marked whole
    rw [read, answerFor]
    constructor
    · rintro ⟨cartridge, answer⟩
      apply Decidable.byContradiction
      intro unsupported
      rw [if_neg unsupported] at answer
      cases answer
    · intro supported
      rw [if_pos supported]
      exact ⟨_, rfl⟩

end Cartridge

/-- The parts of an image, in the order in which they lie in it. -/
structure ImageParts where
  /-- The header. -/
  header : Memory 16
  /-- The trainer, if there is one. -/
  trainer : List UInt8
  /-- Program memory. -/
  program : List UInt8
  /-- Character memory. -/
  character : List UInt8
  /-- Whatever follows. -/
  tail : List UInt8

namespace ImageParts

/-- The image of the parts. -/
def image (parts : ImageParts) : ByteArray :=
  Cartridge.imageOf parts.header
    (parts.trainer ++ parts.program ++ parts.character ++ parts.tail)

/-- The parts of an image for given bank counts: the mark is in place, a trainer is there just if
the header announces it, and each memory has its banks. -/
structure Measured (parts : ImageParts) (programs characters : Nat) : Prop where
  /-- The header begins with the mark. -/
  marked : parts.header.toList.take 4 = [0x4E, 0x45, 0x53, 0x1A]
  /-- The trainer has 512 bytes if the header announces one, and none otherwise. -/
  trainer_length : parts.trainer.length = if bit (parts.header.read 6) 2 then 512 else 0
  /-- Program memory has 16 KiB for each bank. -/
  program_length : parts.program.length = 16384 * programs
  /-- Character memory has 8 KiB for each bank. -/
  character_length : parts.character.length = 8192 * characters

/-- A cartridge has the memories and the wiring that the parts of an image give it, and the bank
counts given. A cartridge without character banks has one bank of zeros. -/
structure Fill (parts : ImageParts) (programs characters : Nat) (cartridge : Cartridge) :
    Prop where
  /-- Program memory is the part of that name, byte for byte. -/
  program_eq : cartridge.program.data.toList = parts.program
  /-- So is character memory, unless the image has none. -/
  character_eq : cartridge.character.data.toList
    = if characters = 0 then List.replicate 8192 0 else parts.character
  /-- The program banks are counted. -/
  program_count : cartridge.banks.program.toNat = programs
  /-- The character banks are counted. -/
  character_count : cartridge.banks.character.toNat = characters
  /-- The number of the board is that of the header. -/
  number : cartridge.boardNumber.toNat = ImageHeader.boardDigits parts.header
  /-- The board is that of the number, or board 0 where there is none. -/
  onBoard : cartridge.board.number.toNat
    = if ImageHeader.boardDigits parts.header ∈ ImageHeader.supportedBoards
      then ImageHeader.boardDigits parts.header else 0
  /-- The nametables are wired as bit 0 of byte 6 says. -/
  wiring : cartridge.wiring
    = if bit (parts.header.read 6) 0 then .vertical else .horizontal

variable {parts : ImageParts} {programs characters : Nat}

/-- An image is as long as its parts together. -/
theorem size_image (measured : parts.Measured programs characters) :
    parts.image.size = 16 + ImageHeader.trainerSize parts.header + 16384 * programs
      + 8192 * characters + parts.tail.length := by
  simp only [image, Cartridge.size_imageOf, List.length_append, measured.trainer_length,
    measured.program_length, measured.character_length, ImageHeader.trainerSize]
  omega

/-- An image that has been put together has a whole header. -/
theorem headed_image (parts : ImageParts) : 16 ≤ parts.image.size := by
  rw [image, Cartridge.size_imageOf]
  exact Nat.le_add_right _ _

/-- The header of such an image is the part that was put in. -/
theorem headerMemory_image (parts : ImageParts) :
    Cartridge.headerMemory parts.image = parts.header := Cartridge.headerMemory_imageOf _ _

/-- An image of measured parts has the mark. -/
theorem marked_image (measured : parts.Measured programs characters) :
    Cartridge.Marked parts.image := by
  rw [← Cartridge.marked_iff parts.headed_image, headerMemory_image]
  exact measured.marked

/-- A piece of an image is cut out by the place where it begins and the one where it ends. -/
theorem extract_imageOf (header : Memory 16) {before piece after : List UInt8} {start stop : Nat}
    (begins : 16 + before.length = start) (ends : start + piece.length = stop) :
    ((Cartridge.imageOf header (before ++ (piece ++ after))).extract start stop).data.toList
      = piece := by
  have front : (header.toList ++ before).length = start := by
    rw [List.length_append, Memory.length_toList, begins]
  rw [Cartridge.imageOf, ByteArray.data_extract, Array.toList_extract,
    List.extract_eq_take_drop, ← List.append_assoc, List.drop_left' front]
  apply List.take_left'
  omega

/-- Parts that are as long as the header is taken to say are found again on any board. -/
theorem fill_assemble {board : Board} (onBoard : Cartridge.OnBoard parts.header board)
    (measured : parts.Measured (ImageHeader.programCount parts.header)
      (ImageHeader.characterCount parts.header)) :
    parts.Fill (ImageHeader.programCount parts.header) (ImageHeader.characterCount parts.header)
      (Cartridge.assemble (ImageHeader.ofMemory parts.header) parts.image board) where
  program_eq := by
    simp only [Cartridge.assemble, image, List.append_assoc]
    apply extract_imageOf
    · rw [measured.trainer_length]
      rfl
    · rw [measured.program_length, ImageHeader.programSize_ofMemory]
  character_eq := by
    have none : (ImageHeader.ofMemory parts.header).banks.character = 0
        ↔ ImageHeader.characterCount parts.header = 0 := by
      rw [← ImageHeader.toNat_characterBanks, ← UInt16.toNat_inj]
      rfl
    simp only [Cartridge.assemble, none]
    split
    · rfl
    · rw [image, List.append_assoc _ parts.character]
      apply extract_imageOf
      · rw [List.length_append, measured.trainer_length, measured.program_length,
          ImageHeader.programStart_ofMemory, ImageHeader.programSize_ofMemory, Nat.add_assoc]
        rfl
      · rw [measured.character_length, ImageHeader.characterSize_ofMemory]
  program_count := ImageHeader.toNat_programBanks parts.header
  character_count := ImageHeader.toNat_characterBanks parts.header
  number := ImageHeader.toNat_boardNumber parts.header
  onBoard := onBoard.2
  wiring := rfl

/-- An image with such parts is answered by a cartridge that they fill. -/
theorem ofImage_image (measured : parts.Measured (ImageHeader.programCount parts.header)
    (ImageHeader.characterCount parts.header)) :
    ∃ cartridge, Cartridge.ofImage parts.image = Cartridge.answerFor parts.header cartridge ∧
      parts.Fill (ImageHeader.programCount parts.header)
        (ImageHeader.characterCount parts.header) cartridge := by
  have whole : ImageHeader.promisedSize (Cartridge.headerMemory parts.image)
      ≤ parts.image.size := by
    rw [headerMemory_image, size_image measured, ImageHeader.promisedSize]
    omega
  obtain ⟨board, onBoard, read⟩ := Cartridge.ofImage_of_whole (marked_image measured) whole
  rw [headerMemory_image] at onBoard read
  exact ⟨_, read, fill_assemble onBoard measured⟩

end ImageParts

namespace Cartridge

/-- Every byte string gets the answer of the first check that it fails: the size of a header, the
mark, the size that the header promises, the board. And an image of the plain revision that is
made from parts, whatever follows them, gives a cartridge that holds just these memories on the
board of its number, or on the plainest board within the error. -/
theorem ofImage_exact :
    (∀ image, Answers image) ∧
      ∀ parts : ImageParts, ¬ImageHeader.IsExtended parts.header →
        parts.Measured (parts.header.read 4).toNat (parts.header.read 5).toNat →
        ∃ cartridge, ofImage parts.image = answerFor parts.header cartridge ∧
          parts.Fill (parts.header.read 4).toNat (parts.header.read 5).toNat cartridge := by
  refine ⟨answers, ?_⟩
  intro parts plain measured
  have programs : ImageHeader.programCount parts.header = (parts.header.read 4).toNat := by
    rw [ImageHeader.programCount, if_neg plain, Nat.add_zero]
  have characters : ImageHeader.characterCount parts.header = (parts.header.read 5).toNat := by
    rw [ImageHeader.characterCount, if_neg plain, Nat.add_zero]
  rw [← programs, ← characters] at measured ⊢
  exact ImageParts.ofImage_image measured

/-- Parts with a trainer and one bank of program memory, for a board that is not supported. -/
def trainedParts : ImageParts where
  header := .ofList [0x4E, 0x45, 0x53, 0x1A, 1, 0, 0x55, 0, 0, 0, 0, 0, 0, 0, 0, 0] rfl
  trainer := List.replicate 512 0xFF
  program := List.replicate 16384 0xEA
  character := []
  tail := [0x01, 0x02]

/-- Neither the trainer nor the tail of such an image reaches the memories of the stand-in. -/
theorem ofImage_exact_trainedParts :
    ∃ cartridge, ofImage trainedParts.image = .error (.unsupportedBoard 5 cartridge) ∧
      cartridge.program.data.toList = List.replicate 16384 0xEA ∧
      cartridge.character.data.toList = List.replicate 8192 0 ∧
      cartridge.wiring = .vertical := by
  have measured : trainedParts.Measured (trainedParts.header.read 4).toNat
      (trainedParts.header.read 5).toNat :=
    ⟨by decide, List.length_replicate, List.length_replicate, rfl⟩
  obtain ⟨cartridge, read, filled⟩ := ofImage_exact.2 trainedParts (by decide) measured
  exact ⟨cartridge, read, filled.program_eq, filled.character_eq, filled.wiring⟩

end Cartridge

end Nes
