import Highlighter.CommandLine.Run

/-!
# The program

The program looks up on disk the places that its arguments lead to, runs the command
line on what it found, and puts the result where it belongs.  Everything else is
decided by `CommandLine.run`.

What the system refuses to look up or to read is not taken for absent: it becomes a
barrier.  Whether a file can be written is only seen when it is written; where that is
refused, the run is made again with a barrier at the place.
-/

namespace Highlighter

/-- The places that a path leads through. -/
def placesOf (working : Location) (path : Path) : List Location :=
  let start := match path.origin with
    | .working => working
    | .root | .doubleRoot => []
  let step (places : List Location × Location) (name : FileName) : List Location × Location :=
    let next := if name = .above then places.2.dropLast else places.2 ++ [name]
    (places.1 ++ [next], next)
  ((path.names.map FileName.ofText).foldl step ([], start)).1

/-- The paths that a command line is about. -/
def pathsOf (arguments : List LooseText) : List Path :=
  match CommandLine.read arguments with
  | .ok (.run asked) =>
      let input := Path.ofText asked.input
      let named := CommandLine.namedPath? asked.config
      [input, Config.filePath named input] ++ (CommandLine.namedPath? asked.output).toList
  | _ => []

/-- How a place is written on disk. -/
def diskPath (location : Location) : String :=
  "/" ++ "/".intercalate (location.map fun name => String.ofList (Utf8.decodeReplacing name.bytes))

/-- What an error says, unless it says that nothing is there. -/
def refusalOf? : IO.Error → Option Refusal
  | .noFileOrDirectory .. | .inappropriateType .. => none
  | .permissionDenied .. => some .permissionDenied
  | _ => some .deviceFault

/-- The file system with a barrier at a place, if an error tells of one. -/
def barFor (files : FileSystem) (location : Location) (access : Access) (fault : IO.Error) :
    FileSystem :=
  match refusalOf? fault with
  | none => files
  | some refusal => files.bar location access refusal

/-- The file system with the file that is on disk at a place. -/
def readAt (files : FileSystem) (location : Location) : IO FileSystem := do
  try
    let content ← IO.FS.readBinFile (diskPath location)
    return files.put location (.file content.toList)
  catch fault => return barFor (files.put location (.file [])) location .read fault

/-- The file system with what is on disk at a place. -/
def observeAt (files : FileSystem) (location : Location) : IO FileSystem := do
  try
    let real ← IO.FS.realPath (diskPath location)
    if ← real.isDir then return files.put location .directory else readAt files location
  catch fault => return barFor files location.dropLast .search fault

/-- The part of the disk that a command line is about. -/
def observe (arguments : List LooseText) : IO FileSystem := do
  let directory := (← IO.currentDir).toString
  let working := (Path.ofString directory).names.map FileName.ofText
  let places := ((pathsOf arguments).flatMap (placesOf working)).eraseDups
  places.foldlM observeAt (FileSystem.empty working)

/-- Put the files on disk that a run has changed.  The result is the first place that cannot be
written, if there is one. -/
def store (earlier after : FileSystem) : IO (Option (Location × Refusal)) := do
  for (location, entry) in after.entries do
    match entry with
    | .directory => pure ()
    | .file content =>
        if earlier.entryAt? location ≠ some entry then
          try IO.FS.writeBinFile (diskPath location) ⟨content.toArray⟩
          catch fault => return some (location, (refusalOf? fault).getD .deviceFault)
  return none

end Highlighter

open Highlighter in
/-- Run the command line of the program. -/
def main (arguments : List String) : IO UInt32 := do
  let given := arguments.map LooseText.ofString
  let files ← observe given
  let planned := CommandLine.run files given
  let outcome := match ← store files planned.files with
    | none => planned
    | some (location, refusal) => CommandLine.run (files.bar location .write refusal) given
  (← IO.getStdout).putStr (String.ofList outcome.output)
  (← IO.getStderr).putStr (String.ofList outcome.messages)
  match outcome.ending with
  | .code code | .usage code => return code.toUInt32
  | .failure failure =>
      (← IO.getStderr).putStrLn (String.ofList failure.message)
      return 1
