import Subtitling.Text.Pieces

/-!
Path texts. A path is a list of pieces between slashes; empty pieces and, behind the front, dots
mean nothing. Taking a path apart never consults a file system, and what is left keeps the spelling
it had.
-/

namespace Subtitling.Files.Path

def pieces (path : String) : List String :=
  (Text.splitWhen (· = '/') path.toList).map String.ofList

def isAbsolute (path : String) : Bool := path.toList.head? == some '/'

def ofPieces (parts : List String) : String := "/".intercalate parts

/-- Drops pieces from the back that name nothing. The list is in reverse, and the last of its
pieces is the front of the path, where a dot names the place itself. -/
def dropIdle : List String → List String
  | [] => []
  | [front] => if front.isEmpty then [] else [front]
  | piece :: rest => if piece.isEmpty || piece = "." then dropIdle rest else piece :: rest

/-- The pieces in reverse without those at the back that name nothing. -/
def named (path : String) : List String := dropIdle (pieces path).reverse

/-- The path without its last component; a path without components has no parent. -/
def parent? (path : String) : Option String :=
  match named path with
  | [] => none
  | _ :: rest =>
    match dropIdle rest with
    | [] => some (if isAbsolute path then "/" else "")
    | rest => some (ofPieces rest.reverse)

/-- The directory that a path lies in, a dot where it names none. -/
def directory (path : String) : String :=
  match parent? path with
  | some dir => if dir.isEmpty then "." else dir
  | none => "."

/-- The last component, if it is a name. -/
def fileName? (path : String) : Option String :=
  match named path with
  | [] => none
  | name :: _ => if name = "." || name = ".." then none else some name

/-- A name cut at its last dot. A dot in front belongs to the name and cuts nothing off. -/
def splitExtension (name : String) : String × Option String :=
  let reversed := name.toList.reverse
  let extension := reversed.takeWhile (· ≠ '.')
  match reversed.dropWhile (· ≠ '.') with
  | [] => (name, none)
  | [_] => (name, none)
  | _ :: stem => (String.ofList stem.reverse, some (String.ofList extension.reverse))

def stem? (path : String) : Option String :=
  (fileName? path).map fun name => (splitExtension name).1

/-- A path inside a directory; an absolute one stays as it is. -/
def join (base path : String) : String :=
  if isAbsolute path || base.isEmpty then path
  else if base.toList.getLast? = some '/' then base ++ path
  else base ++ "/" ++ path

end Subtitling.Files.Path
