import Subtitling.Catalog.Content

/-!
The file of a database: a header of 100 bytes, then the first tree, then the pages of the others.
Numbers are big-endian. `examine` tells whether a file can be read, what it holds, and what keeps
tables from being made in it; `file` is a file with a catalog in it. What is missing at the end of a
file is zero.
-/

namespace Subtitling.Catalog.FileFormat

def signature : List UInt8 := "SQLite format 3\x00".toUTF8.toList

/-- The fractions of a page that one record may fill, which are fixed. -/
def payloadFractions : List UInt8 := [64, 32, 32]

def byte (content : List UInt8) (i : Nat) : Nat := (content.getD i 0).toNat

def word (content : List UInt8) (i : Nat) : Nat := byte content i * 256 + byte content (i + 1)

def longWord (content : List UInt8) (i : Nat) : Nat :=
  word content i * 65536 + word content (i + 2)

/-- The size of a page, a power of two; the greatest is written as one. -/
def pageSize? (content : List UInt8) : Option Nat :=
  let size := if word content 16 = 1 then 65536 else word content 16
  if (List.range 8).any fun k => size = 512 * Nat.pow 2 k then some size else none

/-- A file of one byte is as good as empty. -/
def isEmpty (content : List UInt8) : Bool := content.length ≤ 1

/-- Pages in the file, the last of which may be cut short. -/
def pagesPresent (content : List UInt8) (pageSize : Nat) : Nat :=
  (content.length + (pageSize - 1)) / pageSize

/-- Pages that the header counts, which is in force if it was written with the last change. -/
def pagesCounted (content : List UInt8) (present : Nat) : Nat :=
  if longWord content 24 = longWord content 92 && longWord content 28 ≠ 0 then longWord content 28
  else present

def rootOffset : Nat := Image.frontSize 1

/-- The sizes of the blocks of free room on a page, each of which names the place of the next; the
places grow, and the last names none. -/
def freeBlocks (content : List UInt8) (usable : Nat) : Nat → Nat → Option Nat
  | 0, _ => none
  | fuel + 1, place =>
    let next := word content place
    let size := word content (place + 2)
    if usable < place + 4 then none
    else if next = 0 then if place + size ≤ usable then some size else none
    else if next ≤ place + size + 3 then none
    else (freeBlocks content usable fuel next).map (size + ·)

/-- Whether the room on the first page adds up: what lies between the list of its cells and the
first of them, the blocks, and the pieces that are too small for a block. -/
def isRootRoomSound (content : List UInt8) (usable : Nat) : Bool :=
  let cellStart := word content (rootOffset + 5)
  let start := if cellStart = 0 then 65536 else cellStart
  let first := word content (rootOffset + 1)
  let blocks := if first = 0 then some 0 else if first < start then none
    else freeBlocks content usable usable first
  match blocks with
  | none => false
  | some size =>
    let room := start + byte content (rootOffset + 7) + size
    rootOffset + PageKind.leaf.headSize + 2 * word content (rootOffset + 3) ≤ room && room ≤ usable

/-- Whether tables can be added to a file: the room on its first page adds up, unless that is not
where they go, and the pages that are free are in the file. -/
def isRoomSound (content : List UInt8) (usable pages : Nat) : Bool :=
  (byte content rootOffset ≠ PageKind.leaf.code || isRootRoomSound content usable) &&
    longWord content 36 < pages && longWord content 52 ≤ pages &&
    (longWord content 36 = 0 || (2 ≤ longWord content 32 && longWord content 32 ≤ pages))

def needsLog (content : List UInt8) : Bool := byte content 19 = 2

/-- Why the header cannot be read, if so; `allowsLog` tells whether a log can be used. -/
def headerFault? (allowsLog : Bool) (content : List UInt8) : Option Fault :=
  if !signature.isPrefixOf content || 2 < byte content 19 then some .notDatabase
  else if needsLog content && !allowsLog then some .cannotOpen
  else if (content.drop 21).take 3 ≠ payloadFractions then some .notDatabase
  else
    match pageSize? content with
    | none => some .notDatabase
    | some size =>
      let present := pagesPresent content size
      if present < pagesCounted content present then some .malformed
      else if size < byte content 20 + 480 then some .notDatabase
      else if 4 < byte content 47 then some (.unknown "unsupported file format")
      else none

def textForm (content : List UInt8) : Field.TextForm :=
  match byte content 59 with
  | 2 => .utf16 .littleEndian
  | 3 => .utf16 .bigEndian
  | _ => .utf8

structure Contents where
  content : Content
  /-- Whether the file says that it is not to be written. -/
  isReadOnly : Bool
  /-- Whether there is room for tables. -/
  hasRoom : Bool

def Contents.none : Contents := ⟨.empty, false, true⟩

/-- What a file is good for, or why it cannot be read. -/
def examine (allowsLog : Bool) (content : List UInt8) : Except Fault Contents :=
  if isEmpty content then .ok .none
  else
    match headerFault? allowsLog content with
    | some fault => .error fault
    | none => do
      let size := (pageSize? content).getD 0
      let usable := size - byte content 20
      let image := Image.ofBytes size usable content
      return ⟨← Content.read image (textForm content), 2 < byte content 18,
        isRoomSound content usable image.pages.size⟩

/-- The header of a file with so many pages, whose changes are kept in a log. -/
def header (pages : Nat) : List UInt8 :=
  let number := Field.numberBytes 4
  signature ++ Field.numberBytes 2 Tree.pageSize ++ [2, 2, 0] ++ payloadFractions ++ number 1 ++
    number pages ++ List.replicate 8 0 ++ number 1 ++ number 4 ++ List.replicate 8 0 ++ number 1 ++
    List.replicate 32 0 ++ number 1 ++ number 3046000

def file (s : Store) : List UInt8 :=
  let (tables, pages) := Content.pages s
  let (cells, _) := Tree.cells 0 tables
  header (pages.length + 1) ++ Tree.page rootOffset .leaf (cells.map (·.2)) 0 ++ pages.flatten

end Subtitling.Catalog.FileFormat
