import Highlighter.Detection
import Mathlib.Data.List.Basic

/-!
# Evidence of a language outlasts editing

The content of a text is searched for evidence of five languages, and the first one with evidence
decides.  Evidence is made of marks that start with no blank, and it is complete where it stands.
So blanks in front of a text neither make nor hide evidence, and text behind it can only bring
more.

The answer is then the same for a text with blanks in front, and with text behind it is the same
or a language that is looked for earlier.
-/

namespace Highlighter

/-- No blank is part of a word. -/
theorem isWordChar_eq_false_of_isBlank {c : Char} (blank : isBlank c = true) :
    isWordChar c = false := by
  cases word : isWordChar c with
  | false => rfl
  | true =>
      unfold isWordChar Char.isAlphanum Char.isAlpha Char.isUpper Char.isLower Char.isDigit at word
      simp only [Bool.or_eq_true, Bool.and_eq_true, decide_eq_true_eq, beq_iff_eq,
        UInt32.le_iff_toNat_le, ge_iff_le] at word
      change ((((65 ≤ c.toNat ∧ c.toNat ≤ 90) ∨ (97 ≤ c.toNat ∧ c.toNat ≤ 122)) ∨
        (48 ≤ c.toNat ∧ c.toNat ≤ 57)) ∨ c = '_') at word
      simp only [isBlank, Bool.or_eq_true, Bool.and_eq_true, decide_eq_true_eq, beq_iff_eq] at blank
      rcases word with alphanumeric | rfl
      · omega
      · revert blank
        decide

namespace Text

/-- A part occurs in a text if it is a stretch of the text. -/
theorem occursIn_iff {part text : Text} : occursIn part text = true ↔ part <:+: text := by
  induction text with
  | nil => simp [occursIn]
  | cons c rest inductionHypothesis =>
      rw [occursIn, Bool.or_eq_true, inductionHypothesis, List.isPrefixOf_iff_prefix,
        List.infix_cons_iff]

theorem ne_nil_of_any_head? {wanted : Char → Bool} {text : Text}
    (found : text.head?.any wanted = true) : text ≠ [] := by
  rintro rfl
  contradiction

/-- Where a run of characters of a class ends in a text, it ends there with more text behind. -/
theorem dropWhile_append_of_ne_nil {belongs : Char → Bool} {text : Text}
    (ends : text.dropWhile belongs ≠ []) (suffix : Text) :
    (text ++ suffix).dropWhile belongs = text.dropWhile belongs ++ suffix := by
  rw [List.dropWhile_append, if_neg (mt List.isEmpty_iff.mp ends)]

/-- The first character of a text is the first one with more text behind. -/
theorem any_head?_append {wanted : Char → Bool} {text : Text}
    (found : text.head?.any wanted = true) (suffix : Text) :
    (text ++ suffix).head?.any wanted = true := by
  cases text with
  | nil => contradiction
  | cons c rest => exact found

end Text

namespace Detection

/-- Evidence in a text that blanks in front of the text do not touch and that more text behind it
leaves there. -/
structure Lasting (shows : Text → Bool) : Prop where
  blanks_append : ∀ {blanks : Text}, (∀ c ∈ blanks, isBlank c = true) → ∀ text,
    shows (blanks ++ text) = shows text
  append : ∀ {text : Text}, shows text = true → ∀ suffix, shows (text ++ suffix) = true

/-! ## Marks -/

/-- Blanks in front of a text are no part of a mark that starts with another character. -/
theorem occursIn_blanks_append {mark : Text} {first : Char} (begins : mark.head? = some first)
    (shown : isBlank first = false) {blanks : Text} (blank : ∀ c ∈ blanks, isBlank c = true)
    (text : Text) : Text.occursIn mark (blanks ++ text) = Text.occursIn mark text := by
  obtain ⟨rest, rfl⟩ := List.head?_eq_some_iff.mp begins
  induction blanks with
  | nil => rfl
  | cons c others inductionHypothesis =>
      rw [List.forall_mem_cons] at blank
      have unlike : first ≠ c := by
        rintro rfl
        rw [blank.1] at shown
        contradiction
      rw [List.cons_append, Text.occursIn, inductionHypothesis blank.2, List.isPrefixOf_cons_cons,
        beq_false_of_ne unlike]
      rfl

/-- Marks that begin with something shown are lasting evidence. -/
theorem lasting_holdsAny {marks : List String}
    (shown : marks.all (fun mark => mark.toList.head?.any (!isBlank ·)) = true) :
    Lasting (holdsAny marks) where
  blanks_append {blanks} blank text := by
    rw [Bool.eq_iff_iff, holdsAny, holdsAny, List.any_eq_true, List.any_eq_true]
    refine exists_congr fun mark => and_congr_right fun member => ?_
    have begins := List.all_eq_true.mp shown mark member
    cases first : mark.toList.head? with
    | none => simp [first] at begins
    | some c => rw [occursIn_blanks_append first (by simpa [first] using begins) blank]
  append {text} found suffix := by
    obtain ⟨mark, member, occurs⟩ := List.any_eq_true.mp found
    refine List.any_eq_true.mpr ⟨mark, member, ?_⟩
    rw [Text.occursIn_iff] at occurs ⊢
    exact occurs.trans (List.prefix_append text suffix).isInfix

/-- The first character of an object or an array is looked for behind the blanks. -/
theorem lasting_startsLikeJson : Lasting startsLikeJson where
  blanks_append {blanks} blank text := by
    rw [startsLikeJson, startsLikeJson, Text.trimLeft, List.dropWhile_append_of_pos blank]
    rfl
  append {text} found suffix := by
    rw [startsLikeJson, Text.trimLeft,
      Text.dropWhile_append_of_ne_nil (Text.ne_nil_of_any_head? found)]
    exact Text.any_head?_append found suffix

/-! ## Definitions of Rust functions -/

/-- A definition that a text starts with is complete in it. -/
theorem startsRustFunction_append {text : Text} (starts : startsRustFunction text = true)
    (suffix : Text) : startsRustFunction (text ++ suffix) = true := by
  simp only [startsRustFunction, opensParameters, Bool.and_eq_true] at starts ⊢
  obtain ⟨⟨⟨keyword, separated⟩, named⟩, opens⟩ := starts
  obtain ⟨behind, rfl⟩ := List.isPrefixOf_iff_prefix.mp keyword
  simp only [List.cons_append, List.nil_append, List.drop_succ_cons, List.drop_zero]
    at separated named opens ⊢
  have gapEnds := Text.ne_nil_of_any_head? opens
  -- The text goes on behind the gap, so it goes on behind the name and behind the blanks.
  have nameEnds : (behind.dropWhile isAsciiBlank).dropWhile isWordChar ≠ [] := by
    rintro exhausted
    exact gapEnds (by simp [exhausted])
  have blanksEnd : behind.dropWhile isAsciiBlank ≠ [] := by
    rintro exhausted
    exact nameEnds (by simp [exhausted])
  rw [Text.dropWhile_append_of_ne_nil blanksEnd, Text.dropWhile_append_of_ne_nil nameEnds,
    Text.dropWhile_append_of_ne_nil gapEnds]
  exact ⟨⟨⟨rfl, Text.any_head?_append separated suffix⟩, Text.any_head?_append named suffix⟩,
    Text.any_head?_append opens suffix⟩

/-- More text behind a text leaves the definitions in it. -/
theorem holdsRustFunction_append {afterWord : Bool} {text : Text}
    (holds : holdsRustFunction afterWord text = true) (suffix : Text) :
    holdsRustFunction afterWord (text ++ suffix) = true := by
  induction text generalizing afterWord with
  | nil => contradiction
  | cons c rest inductionHypothesis =>
      rw [holdsRustFunction, Bool.or_eq_true, Bool.and_eq_true] at holds
      rw [List.cons_append, holdsRustFunction, Bool.or_eq_true, Bool.and_eq_true]
      exact holds.imp (And.imp_right fun starts => startsRustFunction_append starts suffix)
        inductionHypothesis

/-- No definition starts at a blank, and a word does not reach over one. -/
theorem holdsRustFunction_blanks_append {blanks : Text} (blank : ∀ c ∈ blanks, isBlank c = true)
    (text : Text) : holdsRustFunction false (blanks ++ text) = holdsRustFunction false text := by
  induction blanks with
  | nil => rfl
  | cons c others inductionHypothesis =>
      rw [List.forall_mem_cons] at blank
      have unlike : c ≠ 'f' := by
        rintro rfl
        exact absurd blank.1 (by decide)
      have starts : startsRustFunction (c :: (others ++ text)) = false := by
        simp [startsRustFunction, unlike.symm]
      rw [List.cons_append, holdsRustFunction, starts, isWordChar_eq_false_of_isBlank blank.1,
        inductionHypothesis blank.2]
      rfl

theorem lasting_holdsRustFunction : Lasting (holdsRustFunction false) where
  blanks_append blank text := holdsRustFunction_blanks_append blank text
  append holds suffix := holdsRustFunction_append holds suffix

/-! ## The evidence of all languages -/

theorem Lasting.and {shows others : Text → Bool} (first : Lasting shows) (second : Lasting others) :
    Lasting fun text => shows text && others text where
  blanks_append blank text := by
    rw [first.blanks_append blank, second.blanks_append blank]
  append found suffix := by
    rw [Bool.and_eq_true] at found ⊢
    exact ⟨first.append found.1 suffix, second.append found.2 suffix⟩

theorem Lasting.or {shows others : Text → Bool} (first : Lasting shows) (second : Lasting others) :
    Lasting fun text => shows text || others text where
  blanks_append blank text := by
    rw [first.blanks_append blank, second.blanks_append blank]
  append found suffix := by
    rw [Bool.or_eq_true] at found ⊢
    exact found.imp (first.append · suffix) (second.append · suffix)

/-- The evidence of every language outlasts editing. -/
theorem lasting_of_mem_evidence {entry : Language × (Text → Bool)} (member : entry ∈ evidence) :
    Lasting entry.2 := by
  simp only [evidence, List.mem_cons, List.not_mem_nil, or_false] at member
  rcases member with rfl | rfl | rfl | rfl | rfl
  · exact lasting_startsLikeJson
  · exact lasting_holdsAny (by decide)
  · have returns : Lasting (holdsAny ["->"]) := lasting_holdsAny (by decide)
    exact (lasting_holdsAny (by decide)).and (returns.or lasting_holdsRustFunction)
  · exact lasting_holdsAny (by decide)
  · exact lasting_holdsAny (by decide)

/-! ## The first language with evidence -/

/-- The first language of a table whose evidence is in a text; without any, another one. -/
def firstShown (table : List (Language × (Text → Bool))) (otherwise : Language) (text : Text) :
    Language :=
  ((table.find? fun (_, shows) => shows text).map (·.1)).getD otherwise

theorem ofContent_eq (text : Text) : ofContent text = firstShown evidence .plaintext text :=
  rfl

section

variable {table : List (Language × (Text → Bool))} {otherwise : Language}

theorem firstShown_cons (language : Language) (shows : Text → Bool) (text : Text) :
    firstShown ((language, shows) :: table) otherwise text =
      if shows text then language else firstShown table otherwise text := by
  cases shown : shows text <;> simp [firstShown, shown]

theorem firstShown_mem (text : Text) :
    firstShown table otherwise text ∈ table.map (·.1) ++ [otherwise] := by
  induction table with
  | nil => exact List.mem_singleton_self otherwise
  | cons entry later inductionHypothesis =>
      rw [firstShown_cons, List.map_cons, List.cons_append]
      split
      · exact List.mem_cons_self
      · exact List.mem_cons_of_mem _ inductionHypothesis

/-- A text with the same evidence shows the same language. -/
theorem firstShown_congr {text other : Text}
    (same : ∀ entry ∈ table, entry.2 other = entry.2 text) :
    firstShown table otherwise other = firstShown table otherwise text := by
  induction table with
  | nil => rfl
  | cons entry later inductionHypothesis =>
      rw [List.forall_mem_cons] at same
      rw [firstShown_cons, firstShown_cons, same.1, inductionHypothesis same.2]

/-- A text with more evidence shows the same language or one that is looked for earlier. -/
theorem idxOf_firstShown_le {text other : Text}
    (distinct : (table.map (·.1) ++ [otherwise]).Nodup)
    (kept : ∀ entry ∈ table, entry.2 text = true → entry.2 other = true) :
    (table.map (·.1) ++ [otherwise]).idxOf (firstShown table otherwise other) ≤
      (table.map (·.1) ++ [otherwise]).idxOf (firstShown table otherwise text) := by
  induction table with
  | nil => exact Nat.le_refl _
  | cons entry later inductionHypothesis =>
      obtain ⟨language, shows⟩ := entry
      rw [List.forall_mem_cons] at kept
      rw [List.map_cons, List.cons_append, List.nodup_cons] at distinct
      rw [List.map_cons, List.cons_append, firstShown_cons, firstShown_cons]
      by_cases shown : shows other = true
      · rw [if_pos shown, List.idxOf_cons_self]
        exact Nat.zero_le _
      · have unshown : ¬shows text = true := fun earlier => shown (kept.1 earlier)
        -- Both languages come from the rest of the table, where the first one is not listed.
        have apart (searched : Text) : language ≠ firstShown later otherwise searched := by
          intro same
          exact distinct.1 (same ▸ firstShown_mem searched)
        rw [if_neg shown, if_neg unshown, List.idxOf_cons_ne _ (apart other),
          List.idxOf_cons_ne _ (apart text)]
        exact Nat.succ_le_succ (inductionHypothesis distinct.2 kept.2)

end

/-! ## Detection -/

/-- The languages that a content can show, in the order in which they are looked for. -/
def priority : List Language :=
  [.json, .sql, .rust, .python, .javascript, .plaintext]

theorem priority_eq : priority = evidence.map (·.1) ++ [.plaintext] :=
  rfl

theorem detect_of_unrecognized {hint : Option Text}
    (unrecognized : hint.bind Language.ofHint? = none) (text : Text) :
    detect text hint = ofContent text := by
  rw [detect, unrecognized, Option.getD_none]

/-- Without a hint that names a language, the language of a text is one of those that a content
can show.  Blanks in front of the text do not change it, and more text behind it can only bring
one that is looked for earlier. -/
theorem detection_outlasts_editing {hint : Option Text}
    (unrecognized : hint.bind Language.ofHint? = none) (text : Text) :
    detect text hint ∈ priority ∧
      (∀ blanks : Text, (∀ c ∈ blanks, isBlank c = true) →
        detect (blanks ++ text) hint = detect text hint) ∧
      ∀ suffix : Text,
        priority.idxOf (detect (text ++ suffix) hint) ≤ priority.idxOf (detect text hint) := by
  simp only [detect_of_unrecognized unrecognized, ofContent_eq, priority_eq]
  refine ⟨firstShown_mem text, fun blanks blank => ?_, fun suffix => ?_⟩
  · exact firstShown_congr fun entry member =>
      (lasting_of_mem_evidence member).blanks_append blank text
  · exact idxOf_firstShown_le (by decide) fun entry member found =>
      (lasting_of_mem_evidence member).append found suffix

/-- An unknown hint leaves a definition of a Rust function to the content, which is complete with
its parenthesis, and a no-break space in front does not hide it. -/
theorem detection_outlasts_editing_definition :
    (some "cobol".toList).bind Language.ofHint? = none ∧
      (∀ c ∈ ['\u00A0', '\n'], isBlank c = true) ∧
      detect ("\u00A0\nfn f".toList) (some "cobol".toList) = .plaintext ∧
      priority.idxOf (detect ("fn f".toList ++ " (".toList) (some "cobol".toList)) ≤
        priority.idxOf .plaintext ∧
      detect "fn f (".toList (some "cobol".toList) = .rust := by
  have unrecognized : (some "cobol".toList).bind Language.ofHint? = none := by decide
  have blank : ∀ c ∈ ['\u00A0', '\n'], isBlank c = true := List.all_eq_true.mp (by decide)
  have plain : detect "fn f".toList (some "cobol".toList) = .plaintext := by decide
  obtain ⟨_, front, behind⟩ := detection_outlasts_editing unrecognized "fn f".toList
  refine ⟨unrecognized, blank, ?_, ?_, by decide⟩
  · exact (front ['\u00A0', '\n'] blank).trans plain
  · rw [← plain]
    exact behind " (".toList

end Detection

end Highlighter
