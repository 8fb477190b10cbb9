import Highlighter.CommandLine.Run
import Highlighter.Proofs.Places
import Highlighter.Proofs.QuotedReading

/-!
# Reading listings back

A line of a listing holds no tab besides the two between its parts and no line break of any
kind, since all it shows of a text is a literal.  So a listing has one line for each token, and
each line gives back the class of its token, the line and the column it starts at, and its
text.  For tokens that cover a text this is all there is to know.
-/

namespace Highlighter

namespace Listing

open Text (brokenLines isLineBreak)

/-- What a listing tells of a token. -/
structure Entry where
  cls : TokenClass
  line : Nat
  column : Nat
  text : Text
  deriving DecidableEq, Repr

/-- The entry of a token. -/
def entry (token : Token) : Entry :=
  ⟨token.cls, token.span.start.line, token.span.start.column, token.text⟩

/-- The entry that a line tells of, with its parts split at the first two tabs. -/
def readLine? (line : Text) : Option Entry := do
  let (name, behind) ← Text.splitAt? '\t' line
  let (place, literal) ← Text.splitAt? '\t' behind
  let (row, column) ← Text.splitAt? ':' place
  return ⟨← TokenClass.ofName? (.ofList name), ← Text.number? row, ← Text.number? column,
    ← Quoted.decode? literal⟩

/-! ## Lines -/

theorem isPrintable_of_mem_decimal {value : Nat} {c : Char} (member : c ∈ Text.decimal value) :
    isPrintable c = true := by
  have digit := Text.isDigit_of_mem_decimal member
  simp only [Char.isDigit, ge_iff_le, Bool.and_eq_true, decide_eq_true_eq, UInt32.le_iff_toNat_le]
    at digit
  have bounds : 0x30 ≤ c.toNat ∧ c.toNat ≤ 0x39 := digit
  simp only [isPrintable, show c.toNat < 0x80 by omega, if_true, Bool.and_eq_true,
    decide_eq_true_eq]
  omega

/-- A line of a listing is shown except for its two tabs. -/
theorem eq_tab_or_isPrintable_of_mem_tokenLine {token : Token} {c : Char}
    (member : c ∈ tokenLine token) : c = '\t' ∨ isPrintable c = true := by
  have name : token.cls.name.toList.all isPrintable = true := by
    cases token.cls <;> decide
  simp only [tokenLine, List.mem_append, List.mem_cons] at member
  rcases member with ((inName | rfl | inRow) | rfl | inColumn) | rfl | inLiteral
  · exact .inr (List.all_eq_true.mp name c inName)
  · exact .inl rfl
  · exact .inr (isPrintable_of_mem_decimal inRow)
  · exact .inr (by decide)
  · exact .inr (isPrintable_of_mem_decimal inColumn)
  · exact .inl rfl
  · exact .inr (Quoted.isPrintable_of_mem_encode inLiteral)

theorem unbroken_tokenLine (token : Token) : ∀ c ∈ tokenLine token, isLineBreak c = false := by
  intro c member
  rcases eq_tab_or_isPrintable_of_mem_tokenLine member with rfl | printable
  · rfl
  · exact Quoted.isLineBreak_of_isPrintable printable

/-- The lines of a listing are the lines of its tokens, for every kind of line break. -/
theorem brokenLines_lines (tokens : List Token) :
    brokenLines (lines tokens) = tokens.map tokenLine := by
  have whole := Text.brokenLines_flatMap_append
    (fun token (_ : token ∈ tokens) => unbroken_tokenLine token) []
  rwa [List.append_nil, show brokenLines [] = [] from rfl, List.append_nil] at whole

/-- There are as many line breaks as tokens. -/
theorem countP_lines (tokens : List Token) :
    (lines tokens).countP isLineBreak = tokens.length := by
  induction tokens with
  | nil => rfl
  | cons token later inductionHypothesis =>
      have own : (tokenLine token).countP isLineBreak = 0 := by
        rw [List.countP_eq_zero]
        intro c member
        simp [unbroken_tokenLine token c member]
      have split : lines (token :: later) = tokenLine token ++ '\n' :: lines later := by
        simp [lines]
      rw [split, List.countP_append, own, List.countP_cons_of_pos rfl, inductionHypothesis]
      simp

/-- A line of a listing gives back the entry of its token. -/
@[simp]
theorem readLine?_tokenLine (token : Token) : readLine? (tokenLine token) = some (entry token) := by
  have nameTabless : '\t' ∉ token.cls.name.toList := by
    cases token.cls <;> decide
  have apart : ∀ mark : Char, mark.isDigit = false → ∀ value, mark ∉ Text.decimal value := by
    intro mark other value member
    rw [Text.isDigit_of_mem_decimal member] at other
    contradiction
  have placeTabless : '\t' ∉ Text.decimal token.span.start.line ++
      ':' :: Text.decimal token.span.start.column := by
    simp [apart '\t' (by decide)]
  have parts : tokenLine token = token.cls.name.toList ++ '\t' ::
      (Text.decimal token.span.start.line ++ ':' :: Text.decimal token.span.start.column ++
        '\t' :: Quoted.encode token.text) := by
    simp [tokenLine]
  rw [parts, readLine?, Text.splitAt?_append nameTabless]
  simp only [Option.bind_eq_bind, Option.bind_some, Text.splitAt?_append placeTabless,
    Text.splitAt?_append (apart ':' (by decide) token.span.start.line)]
  simp [entry]

/-! ## Listings -/

/-- The entries that a listing tells of. -/
def readEntries? (listing : Text) : Option (List Entry) :=
  (brokenLines listing).mapM readLine?

@[simp]
theorem readEntries?_lines (tokens : List Token) :
    readEntries? (lines tokens) = some (tokens.map entry) := by
  rw [readEntries?, brokenLines_lines]
  induction tokens with
  | nil => rfl
  | cons token later inductionHypothesis => simp [inductionHypothesis]

/-- Token lists with the same listing have the same entries. -/
theorem entries_eq_of_lines_eq {first second : List Token} (same : lines first = lines second) :
    first.map entry = second.map entry := by
  have read := congrArg readEntries? same
  rw [readEntries?_lines, readEntries?_lines] at read
  exact Option.some.inj read

/-- The lines above the tokens of a report. -/
def reportHead (language : Option Language) (count : Nat) : List Text :=
  (language.map fun language => "language: ".toList ++ language.name.toList).toList ++
    ["tokens: ".toList ++ Nat.toDigits 10 count]

theorem unbroken_of_mem_reportHead {language : Option Language} {count : Nat} {line : Text}
    (member : line ∈ reportHead language count) : ∀ c ∈ line, isLineBreak c = false := by
  intro c inside
  apply Quoted.isLineBreak_of_isPrintable
  rcases List.mem_append.mp member with named | counted
  · obtain ⟨language, rfl⟩ : ∃ language : Language,
        line = "language: ".toList ++ language.name.toList := by
      cases language with
      | none => simp at named
      | some language => exact ⟨language, by simpa using named⟩
    have printable : ("language: ".toList ++ language.name.toList).all isPrintable = true := by
      cases language <;> decide
    exact List.all_eq_true.mp printable c inside
  · rw [List.mem_singleton.mp counted] at inside
    have label : "tokens: ".toList.all isPrintable = true := by decide
    rcases List.mem_append.mp inside with inLabel | inCount
    · exact List.all_eq_true.mp label c inLabel
    · rw [← Text.decimal_eq_toDigits] at inCount
      exact isPrintable_of_mem_decimal inCount

/-- A report is its head, a line feed behind each line, and the listing. -/
theorem report_eq (language : Option Language) (tokens : List Token) :
    report language tokens =
      ((reportHead language tokens.length).flatMap fun line => line ++ ['\n']) ++
        lines tokens := by
  have counted : Text.decimal tokens.length = Nat.toDigits 10 tokens.length :=
    Text.decimal_eq_toDigits tokens.length
  cases language with
  | none =>
      change "tokens: ".toList ++ Text.decimal tokens.length ++ '\n' :: lines tokens = _
      simp [reportHead, counted]
  | some language =>
      change "language: ".toList ++ language.name.toList ++ ['\n'] ++ "tokens: ".toList ++
        Text.decimal tokens.length ++ '\n' :: lines tokens = _
      simp [reportHead, counted]

/-- A report has its head above the lines of the listing. -/
theorem brokenLines_report (language : Option Language) (tokens : List Token) :
    brokenLines (report language tokens) =
      reportHead language tokens.length ++ brokenLines (lines tokens) := by
  have head := Text.brokenLines_flatMap_append
    (fun line (member : line ∈ reportHead language tokens.length) =>
      unbroken_of_mem_reportHead member) (lines tokens)
  rw [report_eq, head, List.map_id']

/-- A listing is lossless.  The format of tokens writes it, with one line for each token and no
other line break of any kind; each line gives back the class, the line, the column and the text
of its token.  So lists with other entries have other listings, which for tokens that cover
texts are all other lists, and the texts in the listing of a highlighted source are the source.
A report is the listing under its head. -/
theorem listing_lossless (tokens : List Token) :
    (∀ (settings : CommandLine.Settings) (language : Language),
      CommandLine.written { settings with format := .value .tokens } language tokens =
        .ok (lines tokens)) ∧
    brokenLines (lines tokens) = tokens.map tokenLine ∧
    (lines tokens).countP isLineBreak = tokens.length ∧
    (∀ token ∈ tokens, readLine? (tokenLine token) = some (entry token)) ∧
    (∀ others, lines tokens = lines others → tokens.map entry = others.map entry) ∧
    (∀ others text other, Token.Partition text tokens → Token.Partition other others →
      lines tokens = lines others → tokens = others) ∧
    (∀ source language, tokens = highlight source language →
      (readEntries? (lines tokens)).map (·.flatMap (·.text)) = some source) ∧
    (∀ language, report language tokens =
      ((reportHead language tokens.length).flatMap fun line => line ++ ['\n']) ++
        lines tokens) ∧
    (∀ language, brokenLines (report language tokens) =
      reportHead language tokens.length ++ tokens.map tokenLine) := by
  refine ⟨fun _ _ => rfl, brokenLines_lines tokens, countP_lines tokens,
    fun token _ => readLine?_tokenLine token, fun _ => entries_eq_of_lines_eq, ?_, ?_,
    fun language => report_eq language tokens, ?_⟩
  · intro others text other covered otherCovered same
    have pieces := congrArg (List.map fun entry => (⟨entry.cls, entry.text⟩ : Piece))
      (entries_eq_of_lines_eq same)
    rw [List.map_map, List.map_map] at pieces
    exact covered.eq_of_pieces otherCovered pieces
  · rintro source language rfl
    have covered := (partition_highlight source language).source_eq
    rw [readEntries?_lines, Option.map_some, List.flatMap_map]
    exact congrArg some covered
  · intro language
    rw [brokenLines_report, brokenLines_lines]

/-- A tab is told apart from its escape, two tabs from one token with both, and a separator that
breaks lines is kept. -/
theorem listing_lossless_tabs :
    lines [⟨.string, ['\t'], ⟨.start, .after ['\t']⟩⟩] ≠
        lines [⟨.string, ['\\', 't'], ⟨.start, .after ['\\', 't']⟩⟩] ∧
      lines (Token.layout false [⟨.whitespace, ['\t']⟩, ⟨.whitespace, ['\t']⟩]) ≠
        lines (Token.layout true [⟨.whitespace, ['\t']⟩, ⟨.whitespace, ['\t']⟩]) ∧
      (readEntries? (lines (highlight "\t# \u2028".toList (some .python)))).map
        (·.flatMap (·.text)) = some "\t# \u2028".toList := by
  obtain ⟨_, _, _, _, entries, _⟩ :=
    listing_lossless [⟨.string, ['\t'], ⟨.start, .after ['\t']⟩⟩]
  obtain ⟨_, _, _, _, _, covering, _⟩ := listing_lossless
    (Token.layout false [⟨.whitespace, ['\t']⟩, ⟨.whitespace, ['\t']⟩])
  obtain ⟨_, _, _, _, _, _, highlighted, _⟩ :=
    listing_lossless (highlight "\t# \u2028".toList (some .python))
  refine ⟨fun same => absurd (entries _ same) (by decide), fun same => ?_, highlighted _ _ rfl⟩
  exact absurd (covering _ _ _ (Token.partition_layout _ _) (Token.partition_layout _ _) same)
    (by decide)

end Listing

end Highlighter
