import Subtitling.Catalog.Fault
import Subtitling.Text.Pieces
import Subtitling.Text.Quoted
import Subtitling.Text.Utf8

/-!
Names of databases. Most names are paths; one that starts with `file:` is an address with options
that say how the database is opened. A database without a path, or one that asks for it, is in
memory only and gone when it is closed.
-/

namespace Subtitling.Catalog

inductive Mode
  | readOnly
  | readWrite
  /-- It is made where there is none. -/
  | create
  | memory
deriving DecidableEq

namespace Mode

def all : List (String × Mode) :=
  [("ro", .readOnly), ("rw", .readWrite), ("rwc", .create), ("memory", .memory)]

/-- What a mode asks for; it must not be more than the mode before it allows. -/
def asks : Mode → Nat
  | .readOnly => 1
  | .readWrite => 2
  | .create => 3
  | .memory => 0

def allows : Mode → Nat
  | .memory => 4
  | mode => mode.asks

end Mode

structure Location where
  path : String
  mode : Mode
  /-- Whether the file is taken to be one that nobody changes. -/
  isFixed : Bool
  /-- Whether others are to be kept out while the database is used. -/
  locks : Bool
deriving DecidableEq

namespace Location

def isInMemory (l : Location) : Bool :=
  l.path.isEmpty || l.path = ":memory:" || l.mode = .memory

def isWritable (l : Location) : Bool := l.mode ≠ .readOnly && !l.isFixed

/-- Whether a log of changes can be used: it takes locks, unless nobody changes the file. -/
def allowsLog (l : Location) : Bool := l.locks || l.isFixed

/-- Puts encoded bytes in. An encoded NUL ends the text. -/
def decodeBytes : List Char → List UInt8
  | [] => []
  | '%' :: a :: b :: rest =>
    match Text.hexValue? a, Text.hexValue? b with
    | some high, some low =>
      if high * 16 + low = 0 then [] else UInt8.ofNat (high * 16 + low) :: decodeBytes rest
    | _, _ => String.utf8EncodeChar '%' ++ decodeBytes (a :: b :: rest)
  | c :: rest => String.utf8EncodeChar c ++ decodeBytes rest

def decode (cs : List Char) : String := String.ofList (Text.Utf8.decode (decodeBytes cs))

def after (mark : Char) (cs : List Char) : List Char := (cs.dropWhile (· ≠ mark)).drop 1

def readOption (cs : List Char) : String × String :=
  (decode (cs.takeWhile (· ≠ '=')), decode (after '=' cs))

def readOptions (cs : List Char) : List (String × String) :=
  ((Text.splitWhen (· = '&') cs).map readOption).filter fun (name, _) => !name.isEmpty

def accessNames : List String := ["unix", "unix-none", "unix-dotfile", "unix-excl", "memdb"]

def applyOption (mode : Mode) (name value : String) : Except Fault Mode :=
  if name = "cache" then
    if value = "shared" || value = "private" then .ok mode
    else .error (.unknown ("no such cache mode: " ++ value))
  else if name = "mode" then
    match Mode.all.lookup value with
    | none => .error (.unknown ("no such access mode: " ++ value))
    | some wanted =>
      if mode.allows < wanted.asks then
        .error (.notAllowed ("access mode not allowed: " ++ value))
      else .ok wanted
  else .ok mode

def isYes (value : String) : Bool :=
  let digits := value.toList.takeWhile Char.isDigit
  ["yes", "true", "on"].contains (String.ofList (value.toList.map Char.toLower)) ||
    digits.any (· ≠ '0')

/-- The path of an address behind its authority, which is empty or the machine at hand. -/
def dropAuthority : List Char → Except Fault (List Char)
  | '/' :: '/' :: rest =>
    let name := String.ofList (rest.takeWhile (· ≠ '/'))
    if name.isEmpty || name = "localhost" then .ok (rest.dropWhile (· ≠ '/'))
    else .error (.unknown ("invalid uri authority: " ++ name))
  | cs => .ok cs

/-- Reads an address, without its scheme. -/
def ofAddress (cs : List Char) : Except Fault Location := do
  let cs := (← dropAuthority cs).takeWhile (· ≠ '#')
  let options := readOptions (after '?' cs)
  let mode ← options.foldlM (fun mode (name, value) => applyOption mode name value) Mode.create
  let access := ((options.filter fun o => o.1 = "vfs").getLast?.map (·.2)).getD "unix"
  if !accessNames.contains access then throw (.unknown ("no such vfs: " ++ access))
  let isSet (name : String) : Bool := (options.lookup name).any isYes
  return {
    path := if access = "memdb" then "" else decode (cs.takeWhile (· ≠ '?'))
    mode := mode
    isFixed := isSet "immutable"
    locks := !isSet "nolock" }

def ofName (name : String) : Except Fault Location :=
  match name.toList with
  | 'f' :: 'i' :: 'l' :: 'e' :: ':' :: rest => ofAddress rest
  | _ => .ok ⟨name, .create, false, true⟩

/-- The pieces of a path in reverse, without those that name nothing; what goes up takes the piece
before it away, whatever is there. -/
def resolvePieces (atRoot : Bool) : List String → List String → List String
  | done, [] => done
  | done, piece :: rest =>
    if piece.isEmpty || piece = "." then resolvePieces atRoot done rest
    else if piece = ".." then
      match done with
      | [] => resolvePieces atRoot (if atRoot then [] else [".."]) rest
      | name :: before =>
        resolvePieces atRoot (if name = ".." then ".." :: done else before) rest
    else resolvePieces atRoot (piece :: done) rest

end Location

end Subtitling.Catalog
