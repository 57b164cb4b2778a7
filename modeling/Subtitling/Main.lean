import Subtitling.App.Program

/-!
The program as it is started. The files below the working directory are read into a tree, the run
is made on the tree, and the files that it made or changed are written back. No transport to a
service is linked in, so requests are not delivered.
-/

open Subtitling

/-- How much of a file is read. Of videos, which are larger, only the names matter. -/
def contentLimit : USize := 16777216

/-- Everything at a place and below it. -/
partial def gather (place : Files.Location) : IO (List (Files.Location × Files.Entry)) := do
  let path := if place.isEmpty then "." else Files.Path.ofPieces place
  match ← (do (← IO.FS.realPath path).readDir).toBaseIO with
  | .ok entries =>
    let below ← entries.toList.mapM fun entry => gather (place ++ [entry.fileName])
    return (place, .directory) :: below.flatten
  | .error _ =>
    match ← (IO.FS.withFile path .read fun handle => handle.read contentLimit).toBaseIO with
    | .ok content => return [(place, .file content.toList)]
    | .error _ => return []

def readTree : IO Files.Tree := do
  let entries ← gather []
  return ⟨entries.filter fun (place, _) => !place.isEmpty⟩

def writeEntry (place : Files.Location) : Files.Entry → IO Unit
  | .directory => IO.FS.createDirAll (Files.Path.ofPieces place)
  | .file content => IO.FS.writeBinFile (Files.Path.ofPieces place) ⟨content.toArray⟩

/-- Writes what differs from the files that were read; directories come before what is in them. -/
def writeChanges (before after : Files.Tree) : IO Unit := do
  let changed := after.entries.filter fun (place, entry) => before.lookup place ≠ some entry
  for (place, entry) in changed.filter fun (_, entry) => entry = .directory do
    writeEntry place entry
  for (place, entry) in changed.filter fun (_, entry) => entry ≠ .directory do
    writeEntry place entry

def offline : App.Environment where
  link := .constant .unsendable fun call =>
    "error sending request for url (" ++ call.address.text ++ ")"
  now := ""

def main (arguments : List String) : IO UInt32 := do
  let files ← readTree
  let (output, world) := App.run offline arguments (.start files .empty false)
  writeChanges files world.files
  IO.print output.text
  return UInt32.ofNat output.code
