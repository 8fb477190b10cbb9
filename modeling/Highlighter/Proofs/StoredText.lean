import Highlighter.Files.FileSystem

/-!
# Stored texts

Decoding the bytes that a text is stored as gives the text back.  A file that was written holds
what was written, and nothing else in the file system is different: the directories that lead to
the file are the same, so its path leads to it as before.
-/

namespace Highlighter

/-! ## Bytes of texts -/

namespace Utf8

section

variable {position : Nat} {rest : Bytes}

/-- The first byte of a sequence. -/
theorem decodeFrom_lead {value : Nat} {lead : Lead} (beyond : 0x80 ≤ value) (small : value < 0x100)
    (found : lead? value = some lead) :
    decodeFrom position none (UInt8.ofNat value :: rest) =
      decodeFrom (position + 1)
        (some ⟨position, UInt8.ofNat value, 1, lead.bits, lead.low, lead.high, lead.further⟩)
        rest := by
  have held : (UInt8.ofNat value).toNat = value := UInt8.toNat_ofNat_of_lt small
  rw [decodeFrom, held, if_neg (Nat.not_lt.mpr beyond), found]

/-- A byte inside a sequence adds its six bits, and the last of them completes a character. -/
theorem decodeFrom_pending {pending : Pending} {bits : Nat} (small : bits < 0x40)
    (within : pending.low ≤ bits + 0x80 ∧ bits + 0x80 ≤ pending.high) :
    decodeFrom position (some pending) (UInt8.ofNat (bits + 0x80) :: rest) =
      match pending.further with
      | 0 =>
          (decodeFrom (position + 1) none rest).map
            (Char.ofNat (pending.bits * 0x40 + bits) :: ·)
      | further + 1 =>
          decodeFrom (position + 1)
            (some ⟨pending.position, pending.first, pending.count + 1,
              pending.bits * 0x40 + bits, 0x80, 0xBF, further⟩) rest := by
  have held : (UInt8.ofNat (bits + 0x80)).toNat = bits + 0x80 :=
    UInt8.toNat_ofNat_of_lt (show bits + 0x80 < 0x100 by omega)
  rw [decodeFrom, held, if_pos within]
  cases pending.further <;> simp only [Nat.add_sub_cancel]

end

/-! The lead of a sequence by the bits it holds.  The bounds let every second byte pass that
belongs to a character. -/

theorem lead?_two {bits : Nat} (low : 2 ≤ bits) (high : bits < 32) :
    lead? (bits + 192) = some ⟨bits, 0x80, 0xBF, 0⟩ := by
  rw [lead?, if_neg (by omega), if_pos (by omega), Nat.add_sub_cancel]

theorem lead?_three {bits second : Nat} (high : bits < 16) (small : second < 0x40)
    (shortest : bits = 0 → 0x20 ≤ second) (noSurrogate : bits = 13 → second < 0x20) :
    ∃ low high, lead? (bits + 224) = some ⟨bits, low, high, 1⟩ ∧
      low ≤ second + 0x80 ∧ second + 0x80 ≤ high := by
  by_cases zero : bits = 0
  · have first := shortest zero
    subst zero
    exact ⟨0xA0, 0xBF, rfl, by omega, by omega⟩
  · by_cases thirteen : bits = 13
    · have last := noSurrogate thirteen
      subst thirteen
      exact ⟨0x80, 0x9F, rfl, by omega, by omega⟩
    · refine ⟨0x80, 0xBF, ?_, by omega, by omega⟩
      rw [lead?, if_neg (by omega), if_neg (by omega), if_neg (by omega), if_neg (by omega),
        if_pos (by omega), Nat.add_sub_cancel]

theorem lead?_four {bits second : Nat} (high : bits ≤ 4) (small : second < 0x40)
    (shortest : bits = 0 → 0x10 ≤ second) (bounded : bits = 4 → second < 0x10) :
    ∃ low high, lead? (bits + 240) = some ⟨bits, low, high, 2⟩ ∧
      low ≤ second + 0x80 ∧ second + 0x80 ≤ high := by
  by_cases zero : bits = 0
  · have first := shortest zero
    subst zero
    exact ⟨0x90, 0xBF, rfl, by omega, by omega⟩
  · by_cases four : bits = 4
    · have last := bounded four
      subst four
      exact ⟨0x80, 0x8F, rfl, by omega, by omega⟩
    · refine ⟨0x80, 0xBF, ?_, by omega, by omega⟩
      rw [lead?, if_neg (by omega), if_neg (by omega), if_neg (by omega), if_neg (by omega),
        if_neg (by omega), if_neg (by omega), if_pos (by omega), Nat.add_sub_cancel]

section

variable {position : Nat} {rest : Bytes} {number : Nat}

theorem decodeFrom_one (high : number < 0x80) :
    decodeFrom position none (UInt8.ofNat number :: rest) =
      (decodeFrom (position + 1) none rest).map (Char.ofNat number :: ·) := by
  have held : (UInt8.ofNat number).toNat = number :=
    UInt8.toNat_ofNat_of_lt (show number < 0x100 by omega)
  rw [decodeFrom, held, if_pos high]

theorem decodeFrom_two (low : 0x80 ≤ number) (high : number < 0x800) :
    decodeFrom position none
        (UInt8.ofNat (number / 64 % 32 + 192) :: UInt8.ofNat (number % 64 + 128) :: rest) =
      (decodeFrom (position + 2) none rest).map (Char.ofNat number :: ·) := by
  have whole : number / 64 % 32 * 0x40 + number % 64 = number := by omega
  have lead := @lead?_two (number / 64 % 32) (by omega) (by omega)
  rw [decodeFrom_lead (by omega) (by omega) lead,
    decodeFrom_pending (by omega) ⟨by dsimp only; omega, by dsimp only; omega⟩]
  dsimp only
  rw [whole]

theorem decodeFrom_three (low : 0x800 ≤ number) (high : number < 0x10000)
    (noSurrogate : number < 0xD800 ∨ 0xDFFF < number) :
    decodeFrom position none
        (UInt8.ofNat (number / 4096 % 16 + 224) :: UInt8.ofNat (number / 64 % 64 + 128) ::
          UInt8.ofNat (number % 64 + 128) :: rest) =
      (decodeFrom (position + 3) none rest).map (Char.ofNat number :: ·) := by
  have whole : (number / 4096 % 16 * 0x40 + number / 64 % 64) * 0x40 + number % 64 = number := by
    omega
  obtain ⟨least, most, lead, above, below⟩ :=
    @lead?_three (number / 4096 % 16) (number / 64 % 64) (by omega) (by omega) (by omega)
      (by omega)
  rw [decodeFrom_lead (by omega) (by omega) lead, decodeFrom_pending (by omega) ⟨above, below⟩]
  dsimp only
  rw [decodeFrom_pending (by omega) ⟨by dsimp only; omega, by dsimp only; omega⟩]
  dsimp only
  rw [whole]

theorem decodeFrom_four (low : 0x10000 ≤ number) (high : number < 0x110000) :
    decodeFrom position none
        (UInt8.ofNat (number / 262144 % 8 + 240) :: UInt8.ofNat (number / 4096 % 64 + 128) ::
          UInt8.ofNat (number / 64 % 64 + 128) :: UInt8.ofNat (number % 64 + 128) :: rest) =
      (decodeFrom (position + 4) none rest).map (Char.ofNat number :: ·) := by
  have whole : ((number / 262144 % 8 * 0x40 + number / 4096 % 64) * 0x40 + number / 64 % 64) *
      0x40 + number % 64 = number := by
    omega
  obtain ⟨least, most, lead, above, below⟩ :=
    @lead?_four (number / 262144 % 8) (number / 4096 % 64) (by omega) (by omega) (by omega)
      (by omega)
  rw [decodeFrom_lead (by omega) (by omega) lead, decodeFrom_pending (by omega) ⟨above, below⟩]
  dsimp only
  rw [decodeFrom_pending (by omega) ⟨by dsimp only; omega, by dsimp only; omega⟩]
  dsimp only
  rw [decodeFrom_pending (by omega) ⟨by dsimp only; omega, by dsimp only; omega⟩]
  dsimp only
  rw [whole]

end

/-- The bytes of a character are decoded as the character. -/
theorem decodeFrom_utf8EncodeChar (position : Nat) (c : Char) (rest : Bytes) :
    ∃ reached, decodeFrom position none (String.utf8EncodeChar c ++ rest) =
      (decodeFrom reached none rest).map (c :: ·) := by
  have valid : c.toNat < 0xD800 ∨ 0xDFFF < c.toNat ∧ c.toNat < 0x110000 := c.valid
  have meant := Char.ofNat_toNat c
  have bytes := String.utf8EncodeChar.eq_1 c
  rw [show c.val.toNat = c.toNat from rfl] at bytes
  rw [bytes]
  by_cases one : c.toNat ≤ 127
  · have read := @decodeFrom_one position rest c.toNat (by omega)
    rw [meant] at read
    rw [if_pos one]
    exact ⟨_, read⟩
  · by_cases two : c.toNat ≤ 2047
    · have read := @decodeFrom_two position rest c.toNat (by omega) (by omega)
      rw [meant] at read
      rw [if_neg one, if_pos two]
      exact ⟨_, read⟩
    · by_cases three : c.toNat ≤ 65535
      · have read := @decodeFrom_three position rest c.toNat (by omega) (by omega) (by omega)
        rw [meant] at read
        rw [if_neg one, if_neg two, if_pos three]
        exact ⟨_, read⟩
      · have read := @decodeFrom_four position rest c.toNat (by omega) (by omega)
        rw [meant] at read
        rw [if_neg one, if_neg two, if_neg three]
        exact ⟨_, read⟩

theorem decodeFrom_encode (position : Nat) (text : Text) :
    decodeFrom position none (encode text) = .ok text := by
  induction text generalizing position with
  | nil => rfl
  | cons c later inductionHypothesis =>
      obtain ⟨reached, first⟩ := decodeFrom_utf8EncodeChar position c (encode later)
      rw [encode, List.flatMap_cons]
      exact first.trans (by rw [inductionHypothesis]; rfl)

/-- A text is read back from its bytes. -/
@[simp]
theorem decode_encode (text : Text) : decode (encode text) = .ok text :=
  decodeFrom_encode 0 text

end Utf8

/-! ## Files that are written -/

namespace FileSystem

variable {files after : FileSystem}

/-- A walk needs nothing but the directories on its way. -/
theorem walk_of_directories
    (kept : ∀ place, files.entryAt? place = some .directory →
      after.entryAt? place = some .directory)
    (barred : after.barrier? = files.barrier?) {start location : Location}
    {names : List FileName} (found : files.walk start names = .ok location) :
    after.walk start names = .ok location := by
  induction names generalizing start with
  | nil => exact found
  | cons name later inductionHypothesis =>
      unfold walk at found ⊢
      rw [barred]
      split at found
      · contradiction
      · contradiction
      · contradiction
      · next directory passable =>
          rw [kept start directory, passable]
          dsimp only
          split
          · next above =>
              rw [if_pos above] at found
              exact inductionHypothesis found
          · next below =>
              rw [if_neg below] at found
              split
              · next long =>
                  rw [if_pos long] at found
                  contradiction
              · next short =>
                  rw [if_neg short] at found
                  exact inductionHypothesis found

/-- One file has a new content, and nothing else is different. -/
structure Replaced (files : FileSystem) (path : Path) (content : Utf8.Bytes)
    (after : FileSystem) : Prop where
  contentOf_eq : after.contentOf path = .ok content
  /-- The file, where the path led and still leads. -/
  exists_location : ∃ location, files.locate path = .ok location ∧
    after.locate path = .ok location ∧ after.entryAt? location = some (.file content) ∧
    ∀ other, other ≠ location → after.entryAt? other = files.entryAt? other
  working_eq : after.working = files.working
  barriers_eq : after.barriers = files.barriers

theorem locate_of_directories
    (kept : ∀ place, files.entryAt? place = some .directory →
      after.entryAt? place = some .directory) (barred : after.barrier? = files.barrier?)
    (same : after.working = files.working) {path : Path} {location : Location}
    (found : files.locate path = .ok location) : after.locate path = .ok location := by
  unfold locate origin at found ⊢
  cases fault : pathFault? path with
  | some fault =>
      rw [fault] at found
      contradiction
  | none =>
      rw [fault] at found
      rw [same]
      exact walk_of_directories kept barred found

/-- Writing replaces one file. -/
theorem replaced_of_write {path : Path} {content : Utf8.Bytes}
    (done : files.write path content = .ok after) : files.Replaced path content after := by
  obtain ⟨location, located, noDirectory, rfl⟩ : ∃ location,
      files.locate path = .ok location ∧ files.entryAt? location ≠ some .directory ∧
      after = files.put location (.file content) := by
    unfold write at done
    cases located : files.locate path with
    | error fault =>
        rw [located] at done
        contradiction
    | ok location =>
        simp only [located, bind, Except.bind] at done
        split at done
        · contradiction
        · contradiction
        · next other => exact ⟨location, rfl, other, (Except.ok.inj done).symm⟩
  have below : location ≠ [] := by
    rintro rfl
    exact noDirectory files.entryAt?_root
  have kept : ∀ place, files.entryAt? place = some .directory →
      (files.put location (.file content)).entryAt? place = some .directory := by
    intro place directory
    have apart : place ≠ location := by
      rintro rfl
      exact noDirectory directory
    rw [entryAt?_put_of_ne files _ apart, directory]
  have stillLocated := locate_of_directories kept (barrier?_put ..) rfl located
  have held := entryAt?_put_self files (.file content) below
  refine ⟨?_, ⟨location, located, stillLocated, held, fun other apart =>
    entryAt?_put_of_ne files _ apart⟩, rfl, rfl⟩
  unfold contentOf
  rw [stillLocated]
  simp [bind, Except.bind, held]

end FileSystem

end Highlighter
