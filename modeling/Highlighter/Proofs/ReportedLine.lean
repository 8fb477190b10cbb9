import Highlighter.Proofs.ExitCodes
import Highlighter.Proofs.QuotedReading

/-!
# The line that is reported for a refused document

The message about a refused document ends with the place of the fault, and the line of the report
is the first one that the message mentions.  In front of the place stand the words of the fault,
which can quote the document.

A mention of a line is never broken by what stands around a quoted text: neither a quote nor a
parenthesis nor a comma can be part of one.  So a message is searched piece by piece, and the
line is the one of the place exactly if no quoted text mentions another one.
-/

namespace Highlighter

namespace Toml

/-! ## Mentions of lines -/

/-- The digits at the start of a text. -/
def leadingDigits (text : Text) : List Nat :=
  ((text.map digitValue?).takeWhile Option.isSome).filterMap id

/-- The digits of the line that a text mentions at its start; none if it mentions none there. -/
def mentionedFirst (text : Text) : List Nat :=
  let mark := "at line ".toList
  if mark.isPrefixOf text then leadingDigits (text.drop mark.length) else []

theorem isEmpty_leadingDigits (text : Text) :
    (leadingDigits text).isEmpty = ((text.map digitValue?).takeWhile Option.isSome).isEmpty := by
  cases text with
  | nil => rfl
  | cons c rest => cases digit : digitValue? c <;> simp [leadingDigits, digit]

/-- The first mention is at the start of a text, or the one in the rest. -/
theorem lineDigits?_cons (c : Char) (rest : Text) :
    lineDigits? (c :: rest) =
      if (mentionedFirst (c :: rest)).isEmpty then lineDigits? rest
      else some (mentionedFirst (c :: rest)) := by
  rw [lineDigits?, mentionedFirst]
  generalize "at line ".toList = mark
  cases mark.isPrefixOf (c :: rest) with
  | false => rfl
  | true =>
      rw [if_pos rfl, isEmpty_leadingDigits, leadingDigits]
      cases ((((c :: rest).drop mark.length).map digitValue?).takeWhile Option.isSome).isEmpty with
      | true => rfl
      | false => rfl

theorem lineDigits?_of_mentionedFirst {text : Text} {digits : List Nat}
    (here : mentionedFirst text = digits) (written : digits ≠ []) :
    lineDigits? text = some digits := by
  subst here
  cases text with
  | nil => exact absurd rfl written
  | cons c rest => rw [lineDigits?_cons, if_neg (by simpa using written)]

/-- A character that no mention of a line goes over. -/
def Divides (c : Char) : Prop :=
  c ∉ "at line ".toList ∧ digitValue? c = none

instance (c : Char) : Decidable (Divides c) :=
  inferInstanceAs (Decidable (_ ∧ _))

theorem leadingDigits_append_cons {c : Char} (other : digitValue? c = none) (front rest : Text) :
    leadingDigits (front ++ c :: rest) = leadingDigits front := by
  induction front with
  | nil => simp [leadingDigits, other]
  | cons d later inductionHypothesis =>
      cases digit : digitValue? d with
      | none => simp [leadingDigits, digit]
      | some value => simpa [leadingDigits, digit] using inductionHypothesis

theorem mentionedFirst_append_cons {c : Char} (divides : Divides c) (front rest : Text) :
    mentionedFirst (front ++ c :: rest) = mentionedFirst front := by
  unfold mentionedFirst
  simp only [List.isPrefixOf_iff_prefix]
  by_cases here : "at line ".toList <+: front
  · obtain ⟨behind, rfl⟩ := here
    rw [if_pos (List.prefix_append ..), List.append_assoc, if_pos (List.prefix_append ..)]
    exact leadingDigits_append_cons divides.2 behind rest
  · have straddles : ¬"at line ".toList <+: front ++ c :: rest := by
      intro prefixed
      rcases List.prefix_or_prefix_of_prefix prefixed (List.prefix_append front _) with whole | part
      · exact here whole
      · obtain ⟨behind, split⟩ := part
        cases behind with
        | nil =>
            rw [List.append_nil] at split
            exact here (split ▸ List.prefix_refl front)
        | cons d later =>
            rw [← split, List.prefix_append_right_inj, List.cons_prefix_cons] at prefixed
            have member : d ∈ "at line ".toList := by simp [← split]
            exact divides.1 (prefixed.1 ▸ member)
    rw [if_neg here, if_neg straddles]

/-- A text is searched for a mention up to a character that divides it, and then behind it. -/
theorem lineDigits?_append_cons {c : Char} (divides : Divides c) (front rest : Text) :
    lineDigits? (front ++ c :: rest) = (lineDigits? front).or (lineDigits? rest) := by
  induction front with
  | nil =>
      have nowhere := mentionedFirst_append_cons divides [] rest
      rw [List.nil_append] at nowhere ⊢
      rw [lineDigits?_cons, nowhere]
      rfl
  | cons d later inductionHypothesis =>
      have same := mentionedFirst_append_cons divides (d :: later) rest
      rw [List.cons_append] at same ⊢
      rw [lineDigits?_cons, lineDigits?_cons, same, inductionHypothesis]
      split <;> rfl

/-! ## Quoted texts -/

/-- The digits of the first line that the literal of a text mentions. -/
def mentioned? (quoted : Text) : Option (List Nat) :=
  lineDigits? (Quoted.encode quoted)

theorem divides_of_isQuote {quote : Char} (isQuote : Quoted.IsQuote quote) : Divides quote := by
  rcases isQuote with rfl | rfl <;> decide

/-- A literal is searched by itself, whatever stands around it. -/
theorem lineDigits?_literal (front quoted rest : Text) :
    lineDigits? (front ++ (Quoted.encode quoted ++ rest)) =
      (lineDigits? front).or ((mentioned? quoted).or (lineDigits? rest)) := by
  have divides := divides_of_isQuote (Quoted.isQuote_quoteFor quoted)
  have inside (behind : Text) : lineDigits? (quoted.flatMap (Quoted.encodeChar
      (Quoted.quoteFor quoted)) ++ Quoted.quoteFor quoted :: behind) =
        (mentioned? quoted).or (lineDigits? behind) := by
    have opened (text : Text) : lineDigits? (Quoted.quoteFor quoted :: text) = lineDigits? text :=
      lineDigits?_append_cons divides [] text
    rw [mentioned?, Quoted.encode, List.cons_append, opened, lineDigits?_append_cons divides,
      lineDigits?_append_cons divides, lineDigits?, Option.or_none]
  rw [Quoted.encode, List.cons_append, List.cons_append, lineDigits?_append_cons divides,
    List.append_assoc, List.singleton_append, inside]

/-- The digits of the first line that the literals of texts mention. -/
def firstMention? (quoted : List Text) : Option (List Nat) :=
  quoted.findSome? mentioned?

theorem firstMention?_cons (text : Text) (later : List Text) :
    firstMention? (text :: later) = (mentioned? text).or (firstMention? later) := by
  rw [firstMention?, List.findSome?_cons]
  cases mentioned? text <;> rfl

theorem firstMention?_singleton (text : Text) : firstMention? [text] = mentioned? text := by
  rw [firstMention?_cons, firstMention?, List.findSome?_nil, Option.or_none]

/-- Literals with commas between them are searched one after the other. -/
theorem lineDigits?_literals (front : Text) {names : Key} (filled : names ≠ []) (rest : Text) :
    lineDigits? (front ++ (Config.commaSeparated (names.map Quoted.literal) ++ rest)) =
      (lineDigits? front).or
        ((firstMention? (names.map String.toList)).or (lineDigits? rest)) := by
  induction names generalizing front with
  | nil => contradiction
  | cons name later inductionHypothesis =>
      cases later with
      | nil =>
          have single := lineDigits?_literal front name.toList rest
          simpa [Config.commaSeparated, Quoted.literal, firstMention?_singleton] using single
      | cons next others =>
          have comma : lineDigits? [',', ' '] = none := by decide
          have behind := inductionHypothesis [',', ' '] (by simp)
          rw [comma, Option.none_or] at behind
          rw [List.map_cons, List.map_cons, Config.commaSeparated, List.intercalate_cons_cons,
            ← List.map_cons, ← Config.commaSeparated, List.append_assoc, List.append_assoc,
            Quoted.literal, lineDigits?_literal, behind, List.map_cons (l := next :: others),
            firstMention?_cons _ ((next :: others).map String.toList), Option.or_assoc]

/-- A key is searched part by part. -/
theorem lineDigits?_key (front : Text) (key : Key) (rest : Text) :
    lineDigits? (front ++ (displayKey key ++ rest)) =
      (lineDigits? front).or
        ((firstMention? (key.map String.toList)).or (lineDigits? rest)) := by
  have opened (inside : Text) : lineDigits? (front ++ '(' :: inside) =
      (lineDigits? front).or (lineDigits? inside) :=
    lineDigits?_append_cons (by decide) front inside
  have closed : lineDigits? (')' :: rest) = lineDigits? rest :=
    lineDigits?_append_cons (by decide) [] rest
  have comma : lineDigits? (',' :: ')' :: rest) = lineDigits? rest :=
    (lineDigits?_append_cons (by decide) [] _).trans closed
  unfold displayKey
  split
  · next name =>
      have inside := lineDigits?_literal [] name.toList (',' :: ')' :: rest)
      rw [comma] at inside
      simpa [opened, firstMention?_singleton, Quoted.literal, lineDigits?] using congrArg _ inside
  · next other =>
      rw [List.cons_append, List.cons_append, List.append_assoc, List.singleton_append, opened]
      cases key with
      | nil => exact congrArg _ closed
      | cons name later =>
          have inside := lineDigits?_literals [] (List.cons_ne_nil name later) (')' :: rest)
          rw [closed] at inside
          exact congrArg _ inside

/-- What the message of a fault quotes from the document or from the rules of documents. -/
def Fault.quoted : Fault → List Text
  | declaredTwice key | complete key | redefined key => key.map String.toList
  | duplicateName name => [name.toList]
  | illegalCharacter c | invalidCharacter c => [[c]]
  | missing mark => [mark]
  | invalidStatement | invalidValue | expectedLineEnd | expectedEquals | invalidKeyStart
  | expectedTableEnd | expectedArrayEnd | overwritten | unclosedArray | unclosedTable
  | strayBackslash | invalidHex | notScalar | unterminatedString | invalidDate
  | oversizedInteger _ | deepNesting => []

/-- The words of a fault mention a line only where they quote. -/
theorem lineDigits?_message {fault : Fault} (number : ∀ digits, fault ≠ .oversizedInteger digits) :
    lineDigits? (fault.message ++ [' ']) = firstMention? fault.quoted := by
  have key (front : Text) (key : Key) (rest : Text) (before : lineDigits? front = none)
      (behind : lineDigits? rest = none) :
      lineDigits? (front ++ displayKey key ++ rest) = firstMention? (key.map String.toList) := by
    rw [List.append_assoc, lineDigits?_key, before, behind, Option.none_or, Option.or_none]
  have literal (front quoted : Text) (before : lineDigits? front = none) :
      lineDigits? (front ++ Quoted.encode quoted ++ [' ']) = firstMention? [quoted] := by
    rw [List.append_assoc, lineDigits?_literal, before, firstMention?_singleton, Option.none_or,
      show lineDigits? [' '] = none by decide, Option.or_none]
  cases fault with
  | oversizedInteger digits => exact absurd rfl (number digits)
  | declaredTwice name =>
      change lineDigits?
        ("Cannot declare ".toList ++ displayKey name ++ " twice".toList ++ [' ']) = _
      rw [List.append_assoc _ " twice".toList]
      exact key "Cannot declare ".toList name _ (by decide +kernel) (by decide +kernel)
  | complete name =>
      exact key "Cannot mutate immutable namespace ".toList name [' '] (by decide +kernel)
        (by decide +kernel)
  | redefined name =>
      exact key "Cannot redefine namespace ".toList name [' '] (by decide +kernel)
        (by decide +kernel)
  | duplicateName name =>
      exact literal "Duplicate inline table key ".toList name.toList (by decide +kernel)
  | illegalCharacter c => exact literal "Illegal character ".toList [c] (by decide +kernel)
  | invalidCharacter c => exact literal "Found invalid character ".toList [c] (by decide +kernel)
  | missing mark => exact literal "Expected ".toList mark (by decide +kernel)
  | _ => decide +kernel

/-! ## The place of a fault -/

/-- The line in which a document was refused; none at its end. -/
def Rejection.line? (rejection : Rejection) (document : Text) : Option Nat :=
  (rejection.position? document).map (·.line)

/-- The digits of a number in base ten. -/
def digitsOf (number : Nat) : List Nat :=
  (Text.decimal number).map fun c => c.toNat - '0'.toNat

theorem numberOfDigits_digitsOf (number : Nat) : numberOfDigits (digitsOf number) = number := by
  have same : (fun (number : Nat) (c : Char) => number * 10 + (c.toNat - '0'.toNat)) =
      fun number c => 10 * number + (c.toNat - '0'.toNat) := by
    funext number c
    rw [Nat.mul_comm]
  rw [numberOfDigits, digitsOf, List.foldl_map, same, Text.decimal_eq_toDigits]
  exact Nat.ofDigitChars_toDigits (by decide) (by decide)

theorem length_digitsOf_le_iff {number bound : Nat} (positive : 0 < bound) :
    (digitsOf number).length ≤ bound ↔ number < Nat.pow 10 bound := by
  rw [digitsOf, List.length_map, Text.decimal_eq_toDigits]
  exact Nat.length_toDigits_le_iff (by decide) positive

theorem digitValue?_of_isDigit {c : Char} (digit : c.isDigit = true) :
    digitValue? c = some (c.toNat - '0'.toNat) := by
  have small : c.toNat < 0x80 := by
    simp only [Char.isDigit, Bool.and_eq_true, decide_eq_true_eq, ge_iff_le,
      UInt32.le_iff_toNat_le] at digit
    exact Nat.lt_of_le_of_lt digit.2 (by decide)
  rw [digitValue?, if_pos small, if_pos digit]
  rfl

theorem leadingDigits_decimal (number : Nat) :
    leadingDigits (Text.decimal number) = digitsOf number := by
  have all (text : Text) (digits : ∀ c ∈ text, c.isDigit = true) :
      leadingDigits text = text.map fun c => c.toNat - '0'.toNat := by
    induction text with
    | nil => rfl
    | cons c rest inductionHypothesis =>
        rw [List.forall_mem_cons] at digits
        simpa [leadingDigits, digitValue?_of_isDigit digits.1] using inductionHypothesis digits.2
  exact all _ fun _ => Text.isDigit_of_mem_decimal

/-- The words about a place mention the line of the place. -/
theorem lineDigits?_place (line column : Nat) :
    lineDigits? ("at line ".toList ++ Text.decimal line ++ ", column ".toList ++
      Text.decimal column ++ [')']) = some (digitsOf line) := by
  have digits : mentionedFirst ("at line ".toList ++ (Text.decimal line ++
      ',' :: (" column ".toList ++ Text.decimal column ++ [')']))) = digitsOf line := by
    rw [mentionedFirst, if_pos (by rw [List.isPrefixOf_iff_prefix]; exact List.prefix_append ..)]
    exact (leadingDigits_append_cons (by decide) _ _).trans (leadingDigits_decimal line)
  have written : digitsOf line ≠ [] := by
    simpa [digitsOf] using Text.decimal_ne_nil line
  rw [List.append_assoc, List.append_assoc, List.append_assoc]
  exact lineDigits?_of_mentionedFirst digits written

/-- The message about a refused document mentions a line where it quotes, or the one in which the
document was refused. -/
theorem lineDigits?_rejection {rejection : Rejection} (document : Text)
    (number : ∀ digits, rejection.fault ≠ .oversizedInteger digits) :
    lineDigits? (rejection.message document) =
      (firstMention? rejection.fault.quoted).or ((rejection.line? document).map digitsOf) := by
  have divided (place : Text) : lineDigits? (rejection.fault.message ++ (' ' :: '(' :: place)) =
      (firstMention? rejection.fault.quoted).or (lineDigits? place) := by
    have opened := lineDigits?_append_cons (show Divides '(' by decide)
      (rejection.fault.message ++ [' ']) place
    rwa [List.append_assoc, List.singleton_append, lineDigits?_message number] at opened
  unfold Rejection.message Rejection.line?
  cases rejection.position? document with
  | none => exact (divided _).trans (congrArg _ (by decide +kernel))
  | some position => exact (divided _).trans (congrArg _ (lineDigits?_place ..))

end Toml

namespace CommandLine

open Toml

/-- The document of a configuration file, with the rejection of it that a reader reports. -/
structure Rejected (files : FileSystem) (path : Path) (document : Text)
    (rejection : Rejection) : Prop where
  held : ∃ text, TextAt files path text ∧ Text.pairsAsLineFeeds text = document
  refused : Toml.read document = .error rejection
  number : ∀ digits, rejection.fault ≠ .oversizedInteger digits
  depth : rejection.fault ≠ .deepNesting

/-- The report of a refused document with a line. -/
def report (path : Path) (document : Text) (rejection : Rejection) (line? : Option Nat) :
    Config.Problem :=
  .fault ⟨.refused (rejection.message document) line?, some path⟩

/-- A working directory with a configuration file that holds a text. -/
def configuredBy (text : String) : FileSystem :=
  (FileSystem.empty ["work"]).install (.ofString "codelex.toml") (.file (Utf8.encode text.toList))

theorem rejected_configuredBy {text : String} {rejection : Rejection}
    (decoded : Utf8.decode (Utf8.encode text.toList) = .ok text.toList)
    (fed : Text.pairsAsLineFeeds text.toList = text.toList)
    (refused : Toml.read text.toList = .error rejection)
    (number : ∀ digits, rejection.fault ≠ .oversizedInteger digits)
    (depth : rejection.fault ≠ .deepNesting) :
    Rejected (configuredBy text) (.ofString "codelex.toml") text.toList rejection :=
  ⟨⟨_, ⟨_, rfl, decoded⟩, fed⟩, refused, number, depth⟩

section

variable {files : FileSystem} {path : Path} {document : Text} {rejection : Rejection}

/-- A refused configuration file is reported with the line that its message mentions first. -/
theorem load_of_rejected (rejected : Rejected files path document rejection) :
    Config.load files path = .error
      (match (firstMention? rejection.fault.quoted).or
          ((rejection.line? document).map digitsOf) with
      | none => report path document rejection none
      | some digits =>
          if digits.length ≤ Config.digitLimit then
            report path document rejection (some (numberOfDigits digits))
          else .failure (.digits digits.length)) := by
  obtain ⟨⟨text, textAt, rfl⟩, refused, number, depth⟩ := rejected
  rw [load_of_textAt textAt, refused, mapError_error, ← lineDigits?_rejection _ number]
  refine congrArg Except.error (rejectionProblem_eq_iff.mpr ?_)
  have reported := @Refuses.fault path (Text.pairsAsLineFeeds text) rejection number depth
  cases mentioned : lineDigits? (rejection.message (Text.pairsAsLineFeeds text)) with
  | none => simpa [mentioned, report] using reported
  | some digits =>
      by_cases short : digits.length ≤ Config.digitLimit
      · simpa [mentioned, report, short] using reported
      · simpa [short] using Refuses.lineFailure number depth mentioned (Nat.not_le.mp short)

theorem report_injective {line? line?' : Option Nat}
    (same : report path document rejection line? = report path document rejection line?') :
    line? = line?' := by
  injection same with same
  injection same with same
  injection same

/-- The line of a report is the one in which the document was refused, and there is none at its
end, exactly if what the message quotes does not mention a line first, or mentions just that one.
A line that is quoted is reported in its place. -/
theorem reported_line_iff (rejected : Rejected files path document rejection) :
    (Config.load files path =
        .error (report path document rejection (rejection.line? document)) ↔
      match firstMention? rejection.fault.quoted with
      | none => ∀ line ∈ rejection.line? document, line < Nat.pow 10 Config.digitLimit
      | some digits =>
          digits.length ≤ Config.digitLimit ∧
            some (numberOfDigits digits) = rejection.line? document) ∧
      ∀ digits ∈ firstMention? rejection.fault.quoted, digits.length ≤ Config.digitLimit →
        Config.load files path =
          .error (report path document rejection (some (numberOfDigits digits))) := by
  have loaded := load_of_rejected rejected
  cases quoted : firstMention? rejection.fault.quoted with
  | some digits =>
      rw [quoted, Option.some_or] at loaded
      dsimp only at loaded ⊢
      refine ⟨?_, fun given same short => ?_⟩
      · rw [loaded]
        split
        · next short =>
            refine ⟨fun same => ⟨short, report_injective (Except.error.inj same)⟩, ?_⟩
            rintro ⟨-, same⟩
            rw [same]
        · next long =>
            refine ⟨fun same => ?_, fun holds => absurd holds.1 long⟩
            exact absurd (Except.error.inj same) (by simp [report])
      · obtain rfl := Option.some.inj same
        rw [loaded, if_pos short]
  | none =>
      rw [quoted, Option.none_or] at loaded
      refine ⟨?_, fun _ impossible => nomatch impossible⟩
      cases placed : rejection.line? document with
      | none =>
          rw [placed, Option.map_none] at loaded
          simp [loaded]
      | some line =>
          rw [placed, Option.map_some] at loaded
          have bounded : (digitsOf line).length ≤ Config.digitLimit ↔
              line < Nat.pow 10 Config.digitLimit := length_digitsOf_le_iff (by decide)
          dsimp only at loaded
          rw [loaded, numberOfDigits_digitsOf]
          by_cases short : line < Nat.pow 10 Config.digitLimit
          · rw [if_pos (bounded.mpr short)]
            refine iff_of_true rfl fun given same => ?_
            exact Option.some.inj same ▸ short
          · rw [if_neg (mt bounded.mp short)]
            exact iff_of_false (by simp [report]) fun all => short (all line rfl)

end

theorem reported_line_of_second_table :
    Config.load (configuredBy "['at line x']\n['at line x']\n") (.ofString "codelex.toml") =
      .error (report (.ofString "codelex.toml") "['at line x']\n['at line x']\n".toList
        ⟨.declaredTwice ["at line x"], "]\n".toList⟩ (some 2)) := by
  have rejected : Rejected (configuredBy "['at line x']\n['at line x']\n") _ _
      ⟨.declaredTwice ["at line x"], "]\n".toList⟩ :=
    rejected_configuredBy (by rfl) (by rfl) (by rfl) (by simp) (by simp)
  have unmentioned : firstMention? ["at line x".toList] = none := by decide +kernel
  refine (reported_line_iff rejected).1.mpr ?_
  have short : 2 < Nat.pow 10 Config.digitLimit :=
    (length_digitsOf_le_iff (by decide)).mp (by decide +kernel)
  simp only [Fault.quoted, List.map_cons, List.map_nil, unmentioned]
  exact fun line placed => Option.some.inj placed ▸ short

/-- A document that quotes another line is reported with that line: in place of the one in which
it was refused, and in place of its end. -/
theorem quoted_line_reported :
    (Toml.read "['at line 9']\n['at line 9']".toList =
        .error ⟨.declaredTwice ["at line 9"], "]".toList⟩ ∧
      Rejection.line? ⟨.declaredTwice ["at line 9"], "]".toList⟩
        "['at line 9']\n['at line 9']".toList = some 2 ∧
      Config.load (configuredBy "['at line 9']\n['at line 9']") (.ofString "codelex.toml") =
        .error (report (.ofString "codelex.toml") "['at line 9']\n['at line 9']".toList
          ⟨.declaredTwice ["at line 9"], "]".toList⟩ (some 9))) ∧
    Toml.read "['at line 9']\n['at line 9'".toList =
        .error ⟨.declaredTwice ["at line 9"], []⟩ ∧
      Rejection.line? ⟨.declaredTwice ["at line 9"], []⟩
        "['at line 9']\n['at line 9'".toList = none ∧
      Config.load (configuredBy "['at line 9']\n['at line 9'") (.ofString "codelex.toml") =
        .error (report (.ofString "codelex.toml") "['at line 9']\n['at line 9'".toList
          ⟨.declaredTwice ["at line 9"], []⟩ (some 9)) := by
  have reported {text : String} {rest : Text}
      (rejected : Rejected (configuredBy text) (.ofString "codelex.toml") text.toList
        ⟨.declaredTwice ["at line 9"], rest⟩) :
      Config.load (configuredBy text) (.ofString "codelex.toml") =
        .error (report (.ofString "codelex.toml") text.toList
          ⟨.declaredTwice ["at line 9"], rest⟩ (some 9)) := by
    have quoted : firstMention? ["at line 9".toList] = some [9] := by decide +kernel
    have short : [9].length ≤ Config.digitLimit := by decide
    rw [load_of_rejected rejected]
    simp only [Fault.quoted, List.map_cons, List.map_nil, quoted, Option.some_or, if_pos short]
    rfl
  refine ⟨⟨by rfl, by rfl, reported ?_⟩, by rfl, by rfl, reported ?_⟩
  · exact rejected_configuredBy (by rfl) (by rfl) (by rfl) (by simp) (by simp)
  · exact rejected_configuredBy (by rfl) (by rfl) (by rfl) (by simp) (by simp)

end CommandLine

end Highlighter
