import Subtitling.Files.Path

/-!
A file system as a value: the files and directories below the working directory, each under the
list of names that leads to it. Of what lies outside, only the directories above the working
directory and the root are known, and nothing in them. The only faults are those that the paths
themselves cause.

There are no symbolic links. A directory still has more than one spelling, by dots, by repeated
slashes, by the way back up and by its whole path, and paths are compared by where they lead; but a
second name that only a link can give, which could also lead out of the tree or around in a circle,
is beyond this picture.
-/

namespace Subtitling.Files

inductive OsError
  | notFound
  | notADirectory
  | isADirectory
  | alreadyExists
  | nameTooLong
  | busy
  | nulInPath
  | other (text : String)
deriving DecidableEq

def OsError.message : OsError → String
  | .notFound => "No such file or directory (os error 2)"
  | .notADirectory => "Not a directory (os error 20)"
  | .isADirectory => "Is a directory (os error 21)"
  | .alreadyExists => "File exists (os error 17)"
  | .nameTooLong => "File name too long (os error 36)"
  | .busy => "Device or resource busy (os error 16)"
  | .nulInPath => "file name contained an unexpected NUL byte"
  | .other text => text

/-- The names that lead from the working directory to a place. A place outside begins with as many
`..` as it takes to leave it, or with `/`. -/
abbrev Location := List String

def root : Location := ["/"]

/-- Whether a place is the working directory, one above it, or the root. -/
def Location.isAbove (place : Location) : Bool := place.all (· = "..") || place = root

def Location.up (place : Location) : Location :=
  if place = root then root
  else if place.isAbove then place ++ [".."]
  else place.dropLast

inductive Entry
  | directory
  | file (content : List UInt8)
deriving DecidableEq

/-- The places that exist, each once; the working directory and those above it are not listed. -/
structure Tree where
  entries : List (Location × Entry)

namespace Tree

def empty : Tree := ⟨[]⟩

/-- What is at a place, if anything. -/
def lookup (t : Tree) (place : Location) : Option Entry :=
  if place.isAbove then some .directory else t.entries.lookup place

/-- Puts an entry at a place, in place of what was there. -/
def insertEntry (place : Location) (entry : Entry) :
    List (Location × Entry) → List (Location × Entry)
  | [] => [(place, entry)]
  | (p, e) :: rest =>
    if p = place then (place, entry) :: rest else (p, e) :: insertEntry place entry rest

def insert (t : Tree) (place : Location) (entry : Entry) : Tree :=
  ⟨insertEntry place entry t.entries⟩

def erase (t : Tree) (place : Location) : Tree :=
  ⟨t.entries.filter fun (p, _) => p ≠ place⟩

/-- Names have at most 255 bytes. -/
def isTooLong (name : String) : Bool := 255 < name.utf8ByteSize

/-- Follows pieces of a path from a place on. Only a directory can be passed, also by a piece that
names nothing. -/
def walk (t : Tree) : Location → List String → Except OsError Location
  | place, [] => .ok place
  | place, piece :: rest =>
    match t.lookup place with
    | none => .error .notFound
    | some (.file _) => .error .notADirectory
    | some .directory =>
      if piece.isEmpty || piece = "." then walk t place rest
      else if piece = ".." then walk t place.up rest
      else if isTooLong piece then .error .nameTooLong
      else walk t (place ++ [piece]) rest

/-- A whole path has less than this many bytes. -/
def maxPathSize : Nat := 4096

/-- Where following a path starts, and the pieces that lead on from there. -/
def startPieces (path : String) : Except OsError (Location × List String) :=
  if path.isEmpty then .error .notFound
  else if path.toList.contains '\x00' then .error .nulInPath
  else if maxPathSize ≤ path.utf8ByteSize then .error .nameTooLong
  else .ok (if Path.isAbsolute path then root else [], Path.pieces path)

/-- The place that a path leads to; what is there may be missing. -/
def locate (t : Tree) (path : String) : Except OsError Location := do
  let (start, parts) ← startPieces path
  t.walk start parts

def find (t : Tree) (path : String) : Except OsError (Location × Entry) := do
  let place ← t.locate path
  match t.lookup place with
  | some entry => return (place, entry)
  | none => throw .notFound

def exists? (t : Tree) (path : String) : Bool := (t.find path).toBool

def isFile (t : Tree) (path : String) : Bool :=
  match t.find path with
  | .ok (_, .file _) => true
  | _ => false

def isDirectory (t : Tree) (path : String) : Bool :=
  match t.find path with
  | .ok (_, .directory) => true
  | _ => false

def read (t : Tree) (path : String) : Except OsError (List UInt8) := do
  match ← t.find path with
  | (_, .file content) => return content
  | (_, .directory) => throw .isADirectory

/-- The names directly inside a place and what they stand for, in the order of their bytes. -/
def children (t : Tree) (place : Location) : List (String × Entry) :=
  (t.entries.filterMap fun (p, entry) =>
    match p.getLast? with
    | some name => if p.dropLast = place then some (name, entry) else none
    | none => none).mergeSort fun a b => a.1 ≤ b.1

/-- Files directly inside a directory with an extension, compared without regard to ASCII case, as
paths that begin with the directory's. What is no directory has none. -/
def filesWithExtension (t : Tree) (dir extension : String) : List String :=
  let wanted := String.ofList ((extension.toList.dropWhile (· = '.')).map Char.toLower)
  match t.find dir with
  | .ok (place, .directory) =>
    ((t.children place).filterMap fun (name, entry) =>
      match entry, (Path.splitExtension name).2 with
      | .file _, some ext =>
        if String.ofList (ext.toList.map Char.toLower) = wanted then some (Path.join dir name)
        else none
      | _, _ => none)
  | _ => []

/-- Makes one directory, whose parent has to be there. -/
def makeDirectory (t : Tree) (path : String) : Except OsError Tree := do
  let (start, parts) ← startPieces path
  match (parts.reverse.dropWhile String.isEmpty) with
  | [] => throw .alreadyExists
  | name :: before =>
    let parent ← t.walk start before.reverse
    match t.lookup parent with
    | none => throw .notFound
    | some (.file _) => throw .notADirectory
    | some .directory =>
      if name = "." || name = ".." then throw .alreadyExists
      else if isTooLong name then throw .nameTooLong
      else
        match t.lookup (parent ++ [name]) with
        | some _ => throw .alreadyExists
        | none => return t.insert (parent ++ [name]) .directory

/-- Makes a directory and, as far as they are missing, those it lies in. A directory that is there
already is left alone, and what was made before a failure stays. The fuel bounds the parents that
are tried. -/
def makeDirectoriesWithin (t : Tree) : Nat → String → Except OsError Unit × Tree
  | 0, _ => (.error .notFound, t)
  | fuel + 1, path =>
    let settle (grown : Tree) : Except OsError Unit × Tree :=
      match grown.makeDirectory path with
      | .ok made => (.ok (), made)
      | .error e => (if grown.isDirectory path then .ok () else .error e, grown)
    if path.isEmpty then (.ok (), t)
    else
      match t.makeDirectory path with
      | .error .notFound =>
        match Path.parent? path with
        | none => (.error .notFound, t)
        | some parent =>
          match t.makeDirectoriesWithin fuel parent with
          | (.error e, grown) => (.error e, grown)
          | (.ok (), grown) => settle grown
      | _ => settle t

def makeDirectories (t : Tree) (path : String) : Except OsError Unit × Tree :=
  t.makeDirectoriesWithin (path.length + 1) path

/-- The place that a file moved to `path` takes. Its directory has to be there, a path that ends in
a slash names no file, and a directory is not replaced. -/
def target (t : Tree) (path : String) : Except OsError Location := do
  let (start, parts) ← startPieces path
  match parts.reverse.dropWhile String.isEmpty with
  | [] => throw .busy
  | name :: before =>
    let parent ← t.walk start before.reverse
    match t.lookup parent with
    | none => throw .notFound
    | some (.file _) => throw .notADirectory
    | some .directory =>
      if name = "." || name = ".." then throw .busy
      else if isTooLong name then throw .nameTooLong
      else if parts.getLast?.any String.isEmpty then throw .notADirectory
      else
        match t.lookup (parent ++ [name]) with
        | some .directory => throw .isADirectory
        | _ => return parent ++ [name]

end Tree

end Subtitling.Files
