/-!
# Token classes

The eleven classes a scanner can give to a slice of its text, each with the one
name by which listings, markup, themes and configuration files know it.
-/

namespace Highlighter

/-- What a slice of source text is. -/
inductive TokenClass where
  | string
  | comment
  | keyword
  | type
  | number
  | functionCall
  /-- A name, and also any text that no scanner classified. -/
  | identifier
  | punctuation
  | whitespace
  | property
  | operator
  deriving DecidableEq, Repr

namespace TokenClass

/-- All classes, in the order in which a theme lists its styles. -/
def all : List TokenClass :=
  [string, comment, keyword, type, number, functionCall, identifier, punctuation,
    whitespace, property, operator]

/-- The name of a class. -/
def name : TokenClass → String
  | string => "string"
  | comment => "comment"
  | keyword => "keyword"
  | type => "type"
  | number => "number"
  | functionCall => "function_call"
  | identifier => "identifier"
  | punctuation => "punctuation"
  | whitespace => "whitespace"
  | property => "property"
  | operator => "operator"

/-- The class of a name. -/
def ofName? (name : String) : Option TokenClass :=
  all.find? (·.name == name)

/-- Every class is listed. -/
theorem mem_all (cls : TokenClass) : cls ∈ all := by
  cases cls <;> decide

@[simp]
theorem ofName?_name (cls : TokenClass) : ofName? cls.name = some cls := by
  cases cls <;> decide

/-- Two classes never share a name. -/
theorem name_injective {first second : TokenClass} (same : first.name = second.name) :
    first = second := by
  have found := ofName?_name first
  rw [same, ofName?_name] at found
  exact (Option.some.inj found).symm

/-- A name is known exactly when it is the name of the class it stands for. -/
theorem ofName?_eq_some_iff {name : String} {cls : TokenClass} :
    ofName? name = some cls ↔ cls.name = name := by
  constructor
  · intro found
    have holds := List.find?_some found
    simpa using holds
  · rintro rfl
    exact ofName?_name cls

end TokenClass

end Highlighter
