import Highlighter.Language
import Highlighter.Text.UpperCase

/-!
# The lexical conventions of programming languages

A dialect says which words are keywords and which are types, and how comments
start.  The vocabulary decides only the class of a word; where tokens begin and
end depends on the comments alone.
-/

namespace Highlighter

/-- The words of a language that have a class of their own. -/
structure Vocabulary where
  keywords : List String
  types : List String
  /-- Whether keywords are matched in capitals, whatever case they are written in. -/
  ignoresCase : Bool
  deriving Repr

/-- How comments are marked. -/
structure CommentStyle where
  /-- What starts a comment that ends with the line. -/
  lineMarker : Text
  /-- Whether a comment can also stand between a slash with a star and a star with a
  slash. -/
  blocks : Bool
  deriving DecidableEq, Repr

/-- What the scan of a programming language depends on. -/
structure Dialect where
  vocabulary : Vocabulary
  comments : CommentStyle
  deriving Repr

namespace Vocabulary

/-- Whether a word is a keyword.  The words of a vocabulary that ignores case are
written in capitals. -/
def isKeyword (vocabulary : Vocabulary) (word : Text) : Bool :=
  let written := if vocabulary.ignoresCase then word.upperCase else word
  vocabulary.keywords.contains (String.ofList written)

/-- Whether a word is a type.  Types are always matched as they are written. -/
def isType (vocabulary : Vocabulary) (word : Text) : Bool :=
  vocabulary.types.contains (String.ofList word)

end Vocabulary

namespace Dialect

/-- Queries: keywords in either case, line comments after two hyphens. -/
def sql : Dialect where
  vocabulary :=
    { keywords :=
        ["SELECT", "FROM", "WHERE", "INSERT", "INTO", "VALUES", "UPDATE", "SET", "DELETE",
         "CREATE", "TABLE", "DROP", "ALTER", "INDEX", "JOIN", "LEFT", "RIGHT", "INNER",
         "OUTER", "ON", "AND", "OR", "NOT", "NULL", "IS", "IN", "LIKE", "BETWEEN", "ORDER",
         "BY", "GROUP", "HAVING", "LIMIT", "OFFSET", "AS", "DISTINCT", "COUNT", "SUM", "AVG",
         "MAX", "MIN", "PRIMARY", "KEY", "FOREIGN", "REFERENCES", "CASCADE", "CONSTRAINT"]
      types := []
      ignoresCase := true }
  comments := ⟨['-', '-'], false⟩

/-- Rust: line comments after two slashes, and block comments. -/
def rust : Dialect where
  vocabulary :=
    { keywords :=
        ["fn", "let", "mut", "const", "if", "else", "match", "while", "for", "loop", "return",
         "struct", "enum", "impl", "trait", "pub", "use", "mod", "crate", "self", "Self",
         "super", "where", "async", "await", "move", "ref", "static", "unsafe", "extern",
         "type", "dyn", "as", "in", "break", "continue"]
      types :=
        ["i8", "i16", "i32", "i64", "i128", "isize", "u8", "u16", "u32", "u64", "u128",
         "usize", "f32", "f64", "bool", "char", "str", "String", "Vec", "Option", "Result",
         "Box", "Rc", "Arc", "Cell", "RefCell", "HashMap", "HashSet", "BTreeMap"]
      ignoresCase := false }
  comments := ⟨['/', '/'], true⟩

/-- Python: line comments after a number sign. -/
def python : Dialect where
  vocabulary :=
    { keywords :=
        ["def", "class", "if", "elif", "else", "for", "while", "return", "import", "from",
         "as", "try", "except", "finally", "with", "lambda", "yield", "raise", "pass",
         "break", "continue", "and", "or", "not", "in", "is", "None", "True", "False",
         "global", "nonlocal", "assert", "del", "async", "await"]
      types :=
        ["int", "float", "str", "bool", "list", "dict", "tuple", "set", "bytes", "type",
         "object", "Exception", "List", "Dict", "Tuple", "Set", "Optional", "Union", "Any"]
      ignoresCase := false }
  comments := ⟨['#'], false⟩

/-- JavaScript, and TypeScript as well: line comments after two slashes, and block
comments. -/
def javascript : Dialect where
  vocabulary :=
    { keywords :=
        ["function", "const", "let", "var", "if", "else", "for", "while", "do", "switch",
         "case", "break", "continue", "return", "throw", "try", "catch", "finally", "class",
         "extends", "new", "this", "super", "import", "export", "default", "async", "await",
         "yield", "typeof", "instanceof", "in", "of", "delete", "void", "null", "undefined",
         "true", "false", "NaN", "Infinity"]
      types :=
        ["Array", "Object", "String", "Number", "Boolean", "Function", "Symbol", "BigInt",
         "Promise", "Map", "Set", "WeakMap", "WeakSet", "Date", "RegExp", "Error"]
      ignoresCase := false }
  comments := ⟨['/', '/'], true⟩

/-- Dart: line comments after two slashes, and block comments. -/
def dart : Dialect where
  vocabulary :=
    { keywords :=
        ["abstract", "as", "assert", "async", "await", "break", "case", "catch", "class",
         "const", "continue", "covariant", "default", "deferred", "do", "dynamic", "else",
         "enum", "export", "extends", "extension", "external", "factory", "false", "final",
         "finally", "for", "Function", "get", "hide", "if", "implements", "import", "in",
         "interface", "is", "late", "library", "mixin", "new", "null", "on", "operator",
         "part", "required", "rethrow", "return", "set", "show", "static", "super", "switch",
         "sync", "this", "throw", "true", "try", "typedef", "var", "void", "while", "with",
         "yield"]
      types :=
        ["int", "double", "num", "String", "bool", "List", "Map", "Set", "Iterable", "Future",
         "Stream", "Object", "dynamic", "void", "Never", "Null"]
      ignoresCase := false }
  comments := ⟨['/', '/'], true⟩

/-- Shell scripts: line comments after a number sign; common commands count as keywords. -/
def shell : Dialect where
  vocabulary :=
    { keywords :=
        ["if", "then", "else", "elif", "fi", "for", "while", "do", "done", "case", "esac",
         "function", "return", "exit", "export", "source", "alias", "unset", "local",
         "readonly", "declare", "typeset", "echo", "printf", "read", "cd", "pwd", "ls", "cp",
         "mv", "rm", "mkdir", "chmod", "chown", "grep", "sed", "awk", "cat", "head", "tail",
         "find", "xargs", "sort", "uniq", "wc"]
      types := []
      ignoresCase := false }
  comments := ⟨['#'], false⟩

/-- The dialect of a language.  Data formats and plain texts have none. -/
def ofLanguage? : Language → Option Dialect
  | .sql => some sql
  | .rust => some rust
  | .python => some python
  | .javascript => some javascript
  | .typescript => some javascript
  | .dart => some dart
  | .shell => some shell
  | .plaintext | .json | .yaml | .toml | .markdown => none

end Dialect

end Highlighter
