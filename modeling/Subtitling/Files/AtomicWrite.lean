import Subtitling.Files.Tree
import Subtitling.Text.Quoted

/-!
Replacing a file in one step. The content goes to a temporary file in the same directory, which
then takes the file's place, so at every stage a reader sees the file as it was or as it shall be.
A write keeps the tree of each stage. Steps may also fail for reasons outside the tree, such as a
full disk; `Faults` says which do.
-/

namespace Subtitling.Files

/-- The steps of a write, in order. -/
inductive WriteStep
  | makeDirectory
  | createTemporary
  | fill
  | flush
  | move
deriving DecidableEq

/-- Faults that the system adds of its own. -/
abbrev Faults := WriteStep → Option OsError

/-- No fault but those that the tree itself gives cause for. -/
def Faults.none : Faults := fun _ => .none

inductive WriteError
  | makeDirectory (path : String) (cause : OsError)
  | createTemporary (directory : String) (cause : OsError)
  | fill (path : String) (cause : OsError)
  | flush (path : String) (cause : OsError)
  | move (path : String) (cause : OsError)
deriving DecidableEq

/-- What went wrong, then its cause. -/
def WriteError.message : WriteError → String
  | .makeDirectory path e =>
    "Failed to create directory: " ++ Text.quoted path ++ ": " ++ e.message
  | .createTemporary dir e =>
    "Failed to create temp file in " ++ Text.quoted dir ++ ": " ++ e.message
  | .fill path e => "Failed to write temp file for " ++ Text.quoted path ++ ": " ++ e.message
  | .flush path e => "Failed to flush temp file for " ++ Text.quoted path ++ ": " ++ e.message
  | .move path e => "Failed to move temp file to " ++ Text.quoted path ++ ": " ++ e.message

/-- Makes a directory with those it lies in, unless it is there. -/
def ensureDirectory (t : Tree) (path : String) : Except WriteError Unit × Tree :=
  if t.isDirectory path then (.ok (), t)
  else
    match t.makeDirectories path with
    | (.ok (), made) => (.ok (), made)
    | (.error e, made) => (.error (.makeDirectory path e), made)

/-- A name that nothing in a directory has, and that is not the last piece of a path: longer than
every name there and than the path. -/
def freshName (t : Tree) (place : Location) (path : String) : String :=
  let longest := (t.children place).foldl (fun n (name, _) => max n name.length) path.length
  ".tmp" ++ String.ofList (List.replicate longest '0')

/-- The course of a write: the tree after each step that was taken, and how it ended. -/
structure WriteRun where
  stages : List Tree
  result : Except WriteError Unit

def WriteRun.final (run : WriteRun) (start : Tree) : Tree := run.stages.getLastD start

/-- Moves the filled temporary file to its place; a failure takes it away again. -/
def moveTemporary (faults : Faults) (path : String) (content : List UInt8) (temporary : Location)
    (filled : Tree) : WriteRun :=
  let abandon (e : OsError) : WriteRun := ⟨[filled.erase temporary], .error (.move path e)⟩
  match faults .move with
  | some e => abandon e
  | none =>
    match filled.target path with
    | .error e => abandon e
    | .ok place => ⟨[(filled.erase temporary).insert place (.file content)], .ok ()⟩

def writeInside (faults : Faults) (t : Tree) (place : Location) (dir path : String)
    (content : List UInt8) : WriteRun :=
  match faults .createTemporary with
  | some e => ⟨[], .error (.createTemporary dir e)⟩
  | none =>
    let temporary := place ++ [freshName t place path]
    let created := t.insert temporary (.file [])
    let abandon (stages : List Tree) (e : WriteError) : WriteRun :=
      ⟨stages ++ [created.erase temporary], .error e⟩
    match faults .fill with
    | some e => abandon [created] (.fill path e)
    | none =>
      let filled := created.insert temporary (.file content)
      match faults .flush with
      | some e => abandon [created, filled] (.flush path e)
      | none =>
        let move := moveTemporary faults path content temporary filled
        ⟨[created, filled] ++ move.stages, move.result⟩

/-- Writes `content` to `path` in one step, with the directories that are missing. -/
def writeAtomicWith (faults : Faults) (t : Tree) (path : String) (content : List UInt8) :
    WriteRun :=
  let dir := Path.directory path
  match faults .makeDirectory with
  | some e => ⟨[], .error (.makeDirectory dir e)⟩
  | none =>
    match ensureDirectory t dir with
    | (.error e, made) => ⟨[made], .error e⟩
    | (.ok (), made) =>
      match made.find dir with
      | .error e => ⟨[made], .error (.createTemporary dir e)⟩
      | .ok (place, _) =>
        let run := writeInside faults made place dir path content
        ⟨made :: run.stages, run.result⟩

def writeAtomic (t : Tree) (path : String) (content : List UInt8) : Except WriteError Unit × Tree :=
  let run := writeAtomicWith Faults.none t path content
  (run.result, run.final t)

end Subtitling.Files
