import Subtitling.Catalog.Connection
import Subtitling.Catalog.FileFormat
import Subtitling.Catalog.Location
import Subtitling.Files.Tree
import Subtitling.Text.Quoted

/-!
The file that the catalog is kept in. Opening it makes the directories that are missing, the file
itself, and the tables in it, and reads what it holds. Two more files may stand beside it while
it is open: a log of changes, and what is needed to take a change back.
-/

namespace Subtitling.Catalog

inductive OpenError
  | makeDirectory (path : String) (cause : Files.OsError)
  /-- The name has a NUL, in front of which stand so many bytes. -/
  | nulInName (path : String) (position : Nat)
  | openFile (path : String) (fault : Fault)
  /-- It cannot be told whether there are tables. -/
  | readTables (fault : Fault)
  | makeTables (fault : Fault)
  | unknownVersion (cause : UnknownVersion)
deriving DecidableEq

def OpenError.message : OpenError → String
  | .makeDirectory path cause =>
    "Failed to create database directory: " ++ Text.quoted path ++ ": " ++ cause.message
  | .nulInName path position =>
    let cause := "nul byte found in provided data at position: " ++ toString position
    "Failed to open database: " ++ Text.quoted path ++ ": " ++ cause ++ ": " ++ cause
  | .openFile path fault =>
    "Failed to open database: " ++ Text.quoted path ++ ": " ++
      fault.messageWith (if fault = .cannotOpen then ": " ++ path else "")
  | .readTables fault => "Failed to check schema_version table existence: " ++ fault.message
  | .makeTables fault => fault.message
  | .unknownVersion cause => cause.message

/-- The directory that a database lies in, unless it is the one at hand. -/
def directoryOf? (path : String) : Option String :=
  (Files.Path.parent? path).filter fun dir => !dir.isEmpty

def makeDirectoryFor (t : Files.Tree) (path : String) : Except OpenError Unit × Files.Tree :=
  match directoryOf? path with
  | none => (.ok (), t)
  | some dir =>
    match t.makeDirectories dir with
    | (.ok (), made) => (.ok (), made)
    | (.error e, made) => (.error (.makeDirectory dir e), made)

/-- How many bytes stand before the first NUL, if there is one. -/
def nulPosition? (name : String) : Option Nat :=
  let before := name.toList.takeWhile (· ≠ '\x00')
  if before.length = name.length then none else some (String.ofList before).utf8ByteSize

/-- The full name of a database has at most this many bytes. -/
def maxFullName : Nat := 504

/-- How many bytes of it the name of the working directory takes, with the slash behind it. -/
def ownDirectorySize : Nat := 16

/-- The path of a database with nothing to resolve in it; none if it is too long. -/
def fullPath? (path : String) : Option String :=
  let isAbsolute := Files.Path.isAbsolute path
  let names := (Location.resolvePieces isAbsolute [] (Files.Path.pieces path)).reverse
  let resolved := Files.Path.ofPieces names
  if isAbsolute then
    if resolved.utf8ByteSize + 1 ≤ maxFullName then some ("/" ++ resolved) else none
  else if ownDirectorySize + resolved.utf8ByteSize ≤ maxFullName then
    some (if names.isEmpty then "." else resolved)
  else none

/-- Finds the file of a database, or makes it. -/
def findFile (t : Files.Tree) (path : String) (mode : Mode) :
    Except Fault (List UInt8) × Files.Tree :=
  match t.find path with
  | .ok (_, .file content) => (.ok content, t)
  | .ok (_, .directory) => (.error (if mode = .readOnly then .unreadable else .cannotOpen), t)
  | .error _ =>
    match mode, t.target path with
    | .create, .ok place => (.ok [], t.insert place (.file []))
    | _, _ => (.error .cannotOpen, t)

def logPath (path : String) : String := path ++ "-wal"

/-- What is needed to take a change back. -/
def journalPath (path : String) : String := path ++ "-journal"

/-- What is known about the log while the database is open. -/
def logIndexPath (path : String) : String := path ++ "-shm"

/-- Whether a file can be written at a path, be it there or not. -/
def isFree (t : Files.Tree) (path : String) : Bool := (t.target path).toBool

/-- Why a change that was begun in a database cannot be taken back, if there is one. It is there if
its journal begins with anything but a NUL. -/
def rollbackFault? (t : Files.Tree) (l : Location) (path : String) : Option Fault :=
  match t.find (journalPath path) with
  | .ok (_, .directory) => some .unreadableJournal
  | .ok (_, .file content) =>
    if l.mode = .readOnly && content.head?.any (· ≠ 0) then some .unfinished else none
  | .error _ => none

/-- Deals with what was left of earlier changes. Beside an empty database a log is removed. -/
def settle (t : Files.Tree) (l : Location) (path : String) (content : List UInt8) :
    Except Fault Files.Tree :=
  let isEmpty := FileFormat.isEmpty content
  if l.isFixed then .ok t
  else
    match if isEmpty then none else rollbackFault? t l path with
    | some fault => .error fault
    | none =>
      match t.find (logPath path) with
      | .ok (_, .directory) => .error (if isEmpty then .irremovable else .cannotOpen)
      | .ok (place, .file log) =>
        if isEmpty then .ok (t.erase place)
        else if l.allowsLog || log.isEmpty then .ok t
        else .error .cannotOpen
      | .error _ => .ok t

/-- Why nothing can be changed in a database, if so. -/
def refusal? (t : Files.Tree) (l : Location) (path : String) (c : FileFormat.Contents) :
    Option Fault :=
  if c.isReadOnly || !l.isWritable then some .readOnly
  else if !isFree t (journalPath path) then some .cannotOpen
  else if l.allowsLog && !isFree t (logIndexPath path) then some .readOnly
  else if !c.hasRoom then some .malformed
  else none

/-- Puts a file with the tables of a catalog in place of one that is as good as empty; others keep
what they hold. -/
def fill (t : Files.Tree) (path : String) (bytes : List UInt8) (s : Store) : Files.Tree :=
  match t.target path with
  | .ok place => if FileFormat.isEmpty bytes then t.insert place (.file (FileFormat.file s)) else t
  | .error _ => t

/-- Reads what a database holds, and makes the tables if it is a new one. -/
def prepare (t : Files.Tree) (l : Location) (path : String) (bytes : List UInt8) :
    Except OpenError Connection × Files.Tree :=
  match settle t l path bytes with
  | .error fault => (.error (.readTables fault), t)
  | .ok t =>
    match FileFormat.examine l.allowsLog bytes with
    | .error fault => (.error (.readTables fault), t)
    | .ok contents =>
      let found := contents.content
      match found.schema.setUp, refusal? t l path contents with
      | .error e, _ => (.error (.unknownVersion e), t)
      | .ok schema, refusal =>
        match refusal with
        | some fault =>
          if found.schema.isNew then (.error (.makeTables fault), t)
          else (.ok ⟨schema.tables, found.store, refusal⟩, t)
        | none =>
          (.ok ⟨schema.tables, found.store, none⟩,
            if found.schema.isNew then fill t path bytes found.store else t)

def openLocation (t : Files.Tree) (name : String) (l : Location) :
    Except OpenError Connection × Files.Tree :=
  if l.isInMemory then
    (if l.mode = .readOnly then .error (.makeTables .readOnly) else .ok .fresh, t)
  else
    match fullPath? l.path with
    | none => (.error (.openFile name .cannotOpen), t)
    | some path =>
      match findFile t path l.mode with
      | (.error fault, t) => (.error (.openFile name fault), t)
      | (.ok bytes, t) => prepare t l path bytes

/-- Opens a database, and makes it where there is none. -/
def openDatabase (t : Files.Tree) (name : String) : Except OpenError Connection × Files.Tree :=
  match makeDirectoryFor t name with
  | (.error e, made) => (.error e, made)
  | (.ok (), made) =>
    match nulPosition? name, Location.ofName name with
    | some position, _ => (.error (.nulInName name position), made)
    | none, .error fault => (.error (.openFile name fault), made)
    | none, .ok location => openLocation made name location

/-- The path of the file that a name stands for; a database in memory has none. -/
def fileOf? (name : String) : Option String :=
  match Location.ofName name with
  | .ok location => if location.isInMemory then none else fullPath? location.path
  | .error _ => none

/-- Keeps a catalog in the file that a name stands for, in place of what was there. -/
def save (t : Files.Tree) (name : String) (s : Store) : Files.Tree :=
  match (fileOf? name).map t.target with
  | some (.ok place) => t.insert place (.file (FileFormat.file s))
  | _ => t

end Subtitling.Catalog
