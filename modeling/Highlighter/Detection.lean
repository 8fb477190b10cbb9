import Highlighter.Language
import Highlighter.Scan
import Highlighter.Text.Blank

/-!
# Finding out the language of a text

A hint such as a file type or a fence label decides if it is one of the known
aliases.  Otherwise the content is searched for marks of a language, and the first
mark found decides.  The marks are plain occurrences, so more text can only bring
more of them.
-/

namespace Highlighter

namespace Language

/-- The hints that name a language, without regard to case. -/
def aliases : List (String × Language) :=
  [("json", json), ("yaml", yaml), ("yml", yaml), ("toml", toml), ("sql", sql),
    ("rust", rust), ("rs", rust), ("python", python), ("py", python),
    ("javascript", javascript), ("js", javascript), ("typescript", typescript),
    ("ts", typescript), ("dart", dart), ("markdown", markdown), ("md", markdown),
    ("shell", shell), ("bash", shell), ("sh", shell)]

/-- The small letter of a character as far as it is an ASCII letter.  Besides the
ASCII capitals only the Kelvin sign has one. -/
def hintLetter (c : Char) : Char :=
  if c = '\u212A' then 'k' else c.toLower

/-- The language that a hint names, after the blanks around it are dropped. -/
def ofHint? (hint : Text) : Option Language :=
  aliases.lookup (String.ofList (hint.trim.map hintLetter))

end Language

namespace Detection

/-- Whether the text after a name, with its blanks skipped, opens a parameter list. -/
def opensParameters (text : Text) : Bool :=
  (text.dropWhile isAsciiBlank).head?.any fun c => c == '(' || c == '<'

/-- Whether a text starts with the definition of a Rust function: the keyword, blanks,
a name and an opening parenthesis or angle bracket. -/
def startsRustFunction (text : Text) : Bool :=
  let afterKeyword := text.drop 2
  let name := afterKeyword.dropWhile isAsciiBlank
  ['f', 'n'].isPrefixOf text &&
    afterKeyword.head?.any isAsciiBlank &&
    name.head?.any (fun c => c.isAlpha || c == '_') &&
    opensParameters (name.dropWhile isWordChar)

/-- Whether the definition of a Rust function starts anywhere in a text, but not inside
a word.  `afterWord` tells whether a word character stands before the text. -/
def holdsRustFunction (afterWord : Bool) : Text → Bool
  | [] => false
  | c :: rest =>
      (!afterWord && startsRustFunction (c :: rest)) ||
        holdsRustFunction (isWordChar c) rest

/-- Whether one of several marks occurs in a text. -/
def holdsAny (marks : List String) (text : Text) : Bool :=
  marks.any fun mark => Text.occursIn mark.toList text

/-- Whether a text starts like an object or an array, after its blanks. -/
def startsLikeJson (text : Text) : Bool :=
  text.trimLeft.head?.any fun c => c == '\x7b' || c == '['

/-- The marks of a language in a text, in the order in which they are looked for. -/
def evidence : List (Language × (Text → Bool)) :=
  [(.json, startsLikeJson),
    (.sql, holdsAny ["SELECT ", "INSERT ", "CREATE TABLE"]),
    (.rust, fun text =>
      holdsAny ["fn "] text && (holdsAny ["->"] text || holdsRustFunction false text)),
    (.python, holdsAny ["def ", "import "]),
    (.javascript, holdsAny ["function ", "const ", "=>"])]

/-- The language that the content of a text shows. -/
def ofContent (text : Text) : Language :=
  ((evidence.find? fun (_, shows) => shows text).map (·.1)).getD .plaintext

/-- The language of a text: the one its hint names, or the one its content shows. -/
def detect (text : Text) (hint : Option Text) : Language :=
  (hint.bind Language.ofHint?).getD (ofContent text)

end Detection

/-- The language of a block of code and its tokens. -/
def highlightBlock (text : Text) (hint : Option Text) : Language × List Token :=
  let language := Detection.detect text hint
  (language, highlight text (some language))

end Highlighter
