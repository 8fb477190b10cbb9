import Highlighter.Files.Name
import Highlighter.Files.Path

/-!
# A file system

A file system maps places to directories and files.  A path leads to a place by its
names, from the root or from the working directory; every name on the way must be
looked up in a directory that exists, and two dots lead to the directory above.  The
last name of a path may be missing; the operation decides whether that is a fault.

The system can refuse to search a directory, to read a file or to write one, for want of
permission or because of a fault of the device.  Such a barrier stands at a place and hides
nothing of what is there.

Writing replaces the content of one place and leaves all others as they are.
-/

namespace Highlighter

/-- A place in a file system: the names from the root on. -/
abbrev Location := List FileName

/-- What is at a place. -/
inductive Entry where
  | directory
  | file (content : Utf8.Bytes)
  deriving DecidableEq, Repr

/-- What is wanted of a place. -/
inductive Access where
  /-- To look a name up in a directory. -/
  | search
  | read
  | write
  deriving DecidableEq, Repr

/-- The numbers of the errors that are taken to say that there is no file. -/
def absenceNumbers : List Nat :=
  [2, 9, 20, 40]

/-- An error of the system that does not say that there is no file. -/
structure Refusal where
  number : Nat
  description : String
  present : number ∉ absenceNumbers
  deriving DecidableEq, Repr

namespace Refusal

def permissionDenied : Refusal :=
  ⟨13, "Permission denied", by decide⟩

def deviceFault : Refusal :=
  ⟨5, "Input/output error", by decide⟩

end Refusal

/-- Why a file cannot be opened. -/
inductive FileFault where
  | missing
  | notDirectory
  | isDirectory
  | nameTooLong
  | refused (refusal : Refusal)
  /-- A path with a null character, which no system call accepts. -/
  | nullCharacter
  /-- A path with surrogates that stand for no bytes. -/
  | unencodable (fault : Unencodable)
  deriving DecidableEq, Repr

/-- The directories and files, the working directory, and what the system refuses. -/
structure FileSystem where
  entries : List (Location × Entry)
  working : Location
  barriers : List ((Location × Access) × Refusal)
  deriving DecidableEq, Repr

namespace FileFault

/-- The number and the description of a fault, with the path it is about. -/
def message (path : Path) (fault : FileFault) : Text :=
  let described (number : Nat) (description : String) : Text :=
    "[Errno ".toList ++ Text.decimal number ++ [']', ' '] ++ description.toList ++
      [':', ' '] ++ path.toText.literal
  match fault with
  | missing => described 2 "No such file or directory"
  | notDirectory => described 20 "Not a directory"
  | isDirectory => described 21 "Is a directory"
  | nameTooLong => described 36 "File name too long"
  | refused refusal => described refusal.number refusal.description
  | nullCharacter => "embedded null byte".toList
  | unencodable fault => fault.message

/-- Whether a fault is an error of the system.  The system is not asked at all where the path
itself is at fault. -/
def isSystemError : FileFault → Bool
  | missing | notDirectory | isDirectory | nameTooLong | refused _ => true
  | nullCharacter | unencodable _ => false

/-- Whether a fault on the way to a place is taken to say that nothing is there. -/
def saysAbsent : FileFault → Bool
  | missing | notDirectory | isDirectory | nullCharacter | unencodable _ => true
  | nameTooLong | refused _ => false

end FileFault

namespace FileSystem

/-- A file system with nothing but the directories that lead to the working one. -/
def empty (working : Location) : FileSystem where
  entries := (List.range working.length).map fun index =>
    (working.take (index + 1), .directory)
  working := working
  barriers := []

/-- What is at a place; the root is always a directory. -/
def entryAt? (files : FileSystem) (location : Location) : Option Entry :=
  if location = [] then some .directory else files.entries.lookup location

/-- Put an entry at a place, instead of what is there. -/
def put (files : FileSystem) (location : Location) (entry : Entry) : FileSystem :=
  { files with
    entries := files.entries.filter (fun held => held.1 != location) ++
      [(location, entry)] }

@[simp]
theorem entryAt?_root (files : FileSystem) : files.entryAt? [] = some .directory :=
  rfl

theorem lookup_append_of_forall_ne {location : Location}
    {held : List (Location × Entry)} (absent : ∀ pair ∈ held, pair.1 ≠ location)
    (later : List (Location × Entry)) :
    (held ++ later).lookup location = later.lookup location := by
  induction held with
  | nil => rfl
  | cons pair others inductionHypothesis =>
      have differs : (location == pair.1) = false :=
        beq_eq_false_iff_ne.mpr fun same => absent pair (List.mem_cons_self ..) same.symm
      rw [List.cons_append, List.lookup_cons, differs]
      exact inductionHypothesis fun other member => absent other (List.mem_cons_of_mem _ member)

/-- What was put at a place is there. -/
theorem entryAt?_put_self (files : FileSystem) {location : Location} (entry : Entry)
    (below : location ≠ []) : (files.put location entry).entryAt? location = some entry := by
  unfold entryAt? put
  rw [if_neg below, lookup_append_of_forall_ne]
  · simp
  · intro pair member
    simpa using (List.mem_filter.mp member).2

theorem lookup_filter_append_of_ne {location other : Location} (entry : Entry)
    (apart : other ≠ location) (held : List (Location × Entry)) :
    (held.filter (fun pair => pair.1 != location) ++ [(location, entry)]).lookup other =
      held.lookup other := by
  induction held with
  | nil =>
      rw [List.filter_nil, List.nil_append, List.lookup_cons, beq_eq_false_iff_ne.mpr apart]
  | cons pair later inductionHypothesis =>
      by_cases dropped : pair.1 = location
      · have passed : (other == pair.1) = false :=
          beq_eq_false_iff_ne.mpr fun same => apart (same.trans dropped)
        rw [List.filter_cons, if_neg (by simp [dropped]), List.lookup_cons, passed]
        exact inductionHypothesis
      · rw [List.filter_cons, if_pos (by simp [dropped]), List.cons_append, List.lookup_cons,
          List.lookup_cons, inductionHypothesis]

/-- Putting an entry at one place leaves every other place as it was. -/
theorem entryAt?_put_of_ne (files : FileSystem) {location other : Location} (entry : Entry)
    (apart : other ≠ location) :
    (files.put location entry).entryAt? other = files.entryAt? other := by
  unfold entryAt? put
  rw [lookup_filter_append_of_ne entry apart]

/-- What the system answers where it refuses something. -/
def barrier? (files : FileSystem) (location : Location) (access : Access) : Option Refusal :=
  files.barriers.lookup (location, access)

/-- The file system that refuses one thing more. -/
def bar (files : FileSystem) (location : Location) (access : Access) (refusal : Refusal) :
    FileSystem :=
  { files with barriers := ((location, access), refusal) :: files.barriers }

/-- Putting an entry at a place moves no barrier. -/
@[simp]
theorem barrier?_put (files : FileSystem) (location : Location) (entry : Entry) :
    (files.put location entry).barrier? = files.barrier? :=
  rfl

/-- The most bytes of one name. -/
def nameLimit : Nat :=
  255

/-- The most bytes of a path. -/
def pathLimit : Nat :=
  4095

/-- The place that names lead to from a place. -/
def walk (files : FileSystem) : Location → List FileName → Except FileFault Location
  | location, [] => .ok location
  | location, name :: later =>
      match files.entryAt? location, files.barrier? location .search with
      | none, _ => .error .missing
      | some (.file _), _ => .error .notDirectory
      | some .directory, some refusal => .error (.refused refusal)
      | some .directory, none =>
          if name = .above then walk files location.dropLast later
          else if nameLimit < name.bytes.length then .error .nameTooLong
          else walk files (location ++ [name]) later

/-- The fault of a path that is seen before any directory is searched. -/
def pathFault? (path : Path) : Option FileFault :=
  match path.toText.pathFault? with
  | some fault => some (.unencodable fault)
  | none =>
      if .scalar '\x00' ∈ path.toText then some .nullCharacter
      else if pathLimit < path.toText.nameBytes.length then some .nameTooLong
      else none

/-- The place that a path starts from. -/
def origin (files : FileSystem) (path : Path) : Location :=
  match path.origin with
  | .working => files.working
  | .root | .doubleRoot => []

/-- The place that a path leads to. -/
def locate (files : FileSystem) (path : Path) : Except FileFault Location :=
  match pathFault? path with
  | some fault => .error fault
  | none => files.walk (files.origin path) (path.names.map .ofText)

/-- The content of a file, whether it may be read or not. -/
def contentOf (files : FileSystem) (path : Path) : Except FileFault Utf8.Bytes := do
  let location ← files.locate path
  match files.entryAt? location with
  | none => .error .missing
  | some .directory => .error .isDirectory
  | some (.file content) => .ok content

/-- Read a file. -/
def read (files : FileSystem) (path : Path) : Except FileFault Utf8.Bytes := do
  let location ← files.locate path
  match files.entryAt? location, files.barrier? location .read with
  | some _, some refusal => .error (.refused refusal)
  | _, _ => files.contentOf path

/-- Whether a path leads to a file.  A path that leads nowhere does not; there is no answer where
the way cannot be followed for another reason. -/
def isFile (files : FileSystem) (path : Path) : Except FileFault Bool :=
  match files.locate path with
  | .error fault => if fault.saysAbsent then .ok false else .error fault
  | .ok location =>
      match files.entryAt? location with
      | some (.file _) => .ok true
      | _ => .ok false

/-- The file system after a file got new content; a missing one is made. -/
def write (files : FileSystem) (path : Path) (content : Utf8.Bytes) :
    Except FileFault FileSystem := do
  let location ← files.locate path
  match files.entryAt? location, files.barrier? location .write with
  | some .directory, _ => .error .isDirectory
  | _, some refusal => .error (.refused refusal)
  | _, none => .ok (files.put location (.file content))

/-- The file system with a directory at a place and all directories that lead to it. -/
def withDirectories (files : FileSystem) (location : Location) : FileSystem :=
  ((List.range location.length).map fun index => location.take (index + 1)).foldl
    (fun current place =>
      if (current.entryAt? place).isSome then current else current.put place .directory)
    files

/-- The file system with an entry at a path below the working directory, and the
directories that lead to it. -/
def install (files : FileSystem) (path : Path) (entry : Entry) : FileSystem :=
  let location := files.working ++ path.names.map .ofText
  (files.withDirectories location.dropLast).put location entry

end FileSystem

end Highlighter
