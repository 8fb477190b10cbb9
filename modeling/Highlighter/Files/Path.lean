import Highlighter.Text.Loose

/-!
# Paths

A path is a sequence of names below a starting point.  Repeated slashes, a slash at
the end and the name of a single dot say nothing and are dropped; two dots are kept,
since only the file system knows where they lead.  Exactly two slashes at the start
are kept apart from one, and three or more are one.
-/

namespace Highlighter

/-- Where a path starts. -/
inductive Path.Origin where
  /-- At the working directory. -/
  | working
  | root
  /-- At the root, written with two slashes. -/
  | doubleRoot
  deriving DecidableEq, Repr

/-- A path without the parts that say nothing. -/
structure Path where
  origin : Path.Origin
  names : List LooseText
  deriving DecidableEq, Repr

namespace Path

/-- Where a written path starts. -/
def originOf (written : LooseText) : Origin :=
  match (written.takeWhile (· == .scalar '/')).length with
  | 0 => .working
  | 2 => .doubleRoot
  | _ => .root

/-- The path that a loose text writes. -/
def ofText (written : LooseText) : Path where
  origin := originOf written
  names := (written.splitOn (.scalar '/')).filter fun part => part != [] && part != [.scalar '.']

/-- The path that a string writes. -/
def ofString (written : String) : Path :=
  ofText written

/-- How the start of a path is written. -/
def Origin.toText : Origin → LooseText
  | working => []
  | root => "/"
  | doubleRoot => "//"

/-- The text of a path; the working directory itself is a dot. -/
def toText (path : Path) : LooseText :=
  match path.origin, path.names with
  | .working, [] => "."
  | origin, names => origin.toText ++ [.scalar '/'].intercalate names

/-- The last name of a path, empty where there is none. -/
def name (path : Path) : LooseText :=
  path.names.getLast?.getD []

/-- The path without its last name. -/
def parent (path : Path) : Path :=
  { path with names := path.names.dropLast }

/-- The path with one more name. -/
def child (path : Path) (name : LooseText) : Path :=
  { path with names := path.names ++ [name] }

end Path

end Highlighter
