/-!
# Languages

The languages a text can be taken for, with the name that is written in
listings.  The badge of a rendered block is the name in capitals.
-/

namespace Highlighter

/-- A language of the highlighter. -/
inductive Language where
  /-- No language: a text of its own. -/
  | plaintext
  | json
  | yaml
  | toml
  | sql
  | rust
  | python
  | javascript
  | typescript
  | dart
  | markdown
  | shell
  deriving DecidableEq, Repr

namespace Language

/-- All languages. -/
def all : List Language :=
  [plaintext, json, yaml, toml, sql, rust, python, javascript, typescript, dart,
    markdown, shell]

/-- The name of a language. -/
def name : Language → String
  | plaintext => "plaintext"
  | json => "json"
  | yaml => "yaml"
  | toml => "toml"
  | sql => "sql"
  | rust => "rust"
  | python => "python"
  | javascript => "javascript"
  | typescript => "typescript"
  | dart => "dart"
  | markdown => "markdown"
  | shell => "shell"

/-- The language of a name, which is matched exactly. -/
def ofName? (name : String) : Option Language :=
  all.find? (·.name == name)

/-- The badge above a rendered block: the name in capitals. -/
def label (language : Language) : List Char :=
  language.name.toList.map Char.toUpper

/-- Every language is listed. -/
theorem mem_all (language : Language) : language ∈ all := by
  cases language <;> decide

@[simp]
theorem ofName?_name (language : Language) : ofName? language.name = some language := by
  cases language <;> decide

end Language

end Highlighter
