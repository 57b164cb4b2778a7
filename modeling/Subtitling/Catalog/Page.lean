import Subtitling.Catalog.Fault
import Subtitling.Catalog.Field

/-!
The pages of a database file and the trees in them. A tree has its records on the pages at its ends,
ordered by key; the pages above those hold where they are. A record that is too long for its page
goes on on pages of its own. `Image.rows` reads the records of a tree, and `Tree.pages` lays records
out on new pages.
-/

namespace Subtitling.Catalog

/-- What a page may hold at its front: the end of a tree, or where the pages below it are. -/
inductive PageKind
  | leaf
  | branch
deriving DecidableEq

namespace PageKind

def code : PageKind → Nat
  | .leaf => 13
  | .branch => 5

def ofCode? (code : Nat) : Option PageKind :=
  if code = 13 then some .leaf else if code = 5 then some .branch else none

def headSize : PageKind → Nat
  | .leaf => 8
  | .branch => 12

end PageKind

/-- How many bytes of a record are on its own page, out of so many that a page has. -/
def localSize (usable size : Nat) : Nat :=
  let most := usable - 35
  let least := (usable - 12) * 32 / 255 - 23
  let fitting := least + (size - least) % (usable - 4)
  if size ≤ most then size else if fitting ≤ most then fitting else least

structure Image where
  pages : Array (List UInt8)
  pageSize : Nat
  /-- How many bytes of each page are used; what is left at its end is kept for others. -/
  usable : Nat

/-- Cuts bytes into pages; the last may be short. The fuel bounds how many there are. -/
def cutPages (size : Nat) : Nat → List UInt8 → List (List UInt8)
  | _, [] => []
  | 0, _ => []
  | fuel + 1, bytes => bytes.take size :: cutPages size fuel (bytes.drop size)

def Image.ofBytes (pageSize usable : Nat) (bytes : List UInt8) : Image :=
  ⟨(cutPages pageSize bytes.length bytes).toArray, pageSize, usable⟩

namespace Image

/-- A page by its number, which begins with one. What is missing at the end of the last is zero. -/
def page (im : Image) (n : Nat) : Except Fault (List UInt8) :=
  match n with
  | 0 => .error .malformed
  | n + 1 =>
    match im.pages[n]? with
    | some page => .ok (page ++ List.replicate (im.pageSize - page.length) 0)
    | none => .error .malformed

/-- What stands before the first tree: the header of the file, on the first page. -/
def frontSize (n : Nat) : Nat := if n = 1 then 100 else 0

def words : Nat → List UInt8 → List Nat
  | 0, _ => []
  | count + 1, bytes => Field.number 2 bytes :: words count (bytes.drop 2)

/-- The bytes of a record that goes on on other pages, each of which names the next. -/
def followChain (im : Image) : Nat → Nat → Nat → Except Fault (List UInt8)
  | _, _, 0 => .ok []
  | 0, _, _ => .error .malformed
  | fuel + 1, n, missing => do
    let page ← im.page n
    let part := ((page.drop 4).take (im.usable - 4)).take missing
    return part ++ (← im.followChain fuel (Field.number 4 page) (missing - (im.usable - 4)))

/-- The record in a cell at the end of a tree, with its key. -/
def row (im : Image) (cell : List UInt8) : Except Fault (Int × List Field) := do
  let (size, rest) := Field.takeNumber cell
  let (key, rest) := Field.takeNumber rest
  let own := localSize im.usable size
  if rest.length < own then throw .malformed
  let more ← im.followChain im.pages.size (Field.number 4 (rest.drop own)) (size - own)
  match Field.ofRecord? (rest.take own ++ more) with
  | some fields => return (Field.signed 64 key, fields)
  | none => throw .malformed

/-- What a page says of itself: its kind, the places of its cells, and the page behind them all. -/
structure Layout where
  kind : PageKind
  places : List Nat
  last : Nat

/-- The layout of a page. A place past the end of the page is counted from its beginning again. -/
def layout (im : Image) (n : Nat) (page : List UInt8) : Except Fault Layout :=
  let body := page.drop (frontSize n)
  match PageKind.ofCode? (Field.number 1 body) with
  | none => .error .malformed
  | some kind =>
    let count := Field.number 2 (body.drop 3)
    if (im.pageSize - 8) / 6 < count then .error .malformed
    else
      .ok ⟨kind, (words count (body.drop kind.headSize)).map (· % im.pageSize),
        Field.number 4 (body.drop 8)⟩

def maxDepth : Nat := 20

/-- The records of a tree of bounded depth, in the order of their keys. -/
def rowsWithin (im : Image) : Nat → Nat → Except Fault (List (Int × List Field))
  | 0, _ => .error .malformed
  | fuel + 1, n => do
    let page ← im.page n
    let layout ← im.layout n page
    match layout.kind with
    | .leaf => layout.places.mapM fun place => im.row (page.drop place)
    | .branch =>
      let below := layout.places.map fun place => Field.number 4 (page.drop place)
      let parts ← (below ++ [layout.last]).mapM (im.rowsWithin fuel)
      return parts.flatten

def rows (im : Image) (root : Nat) : Except Fault (List (Int × List Field)) :=
  im.rowsWithin maxDepth root

end Image

namespace Tree

/-- The size of a new page, all of which is used. -/
def pageSize : Nat := 4096

/-- Bytes with zeros behind them up to the size of a page. -/
def padded (bytes : List UInt8) : List UInt8 :=
  bytes ++ List.replicate (pageSize - bytes.length) 0

/-- Pages for the rest of a record, the first of which has the number `next`. The fuel bounds how
many there are. -/
def chain : Nat → Nat → List UInt8 → List (List UInt8)
  | _, _, [] => []
  | 0, _, _ => []
  | fuel + 1, next, bytes =>
    let rest := bytes.drop (pageSize - 4)
    let link := if rest.isEmpty then 0 else next + 1
    padded (Field.numberBytes 4 link ++ bytes.take (pageSize - 4)) :: chain fuel (next + 1) rest

/-- The cell of a record, and the pages for what does not fit into it. -/
def cell (next : Nat) (key : Int) (fields : List Field) : List UInt8 × List (List UInt8) :=
  let record := Field.record fields
  let own := localSize pageSize record.length
  let more := chain record.length next (record.drop own)
  (Field.packedNumber record.length ++ Field.packedNumber (Field.unsigned key) ++ record.take own ++
    (if more.isEmpty then [] else Field.numberBytes 4 next), more)

/-- The cells of records, each with its key, and the pages for what does not fit into them. -/
def cells : Nat → List (Int × List Field) → List (Int × List UInt8) × List (List UInt8)
  | _, [] => ([], [])
  | next, (key, fields) :: rest =>
    let (own, more) := cell next key fields
    let (others, pages) := cells (next + more.length) rest
    ((key, own) :: others, more ++ pages)

/-- Shares things out among pages, in their order; each takes so much room of what a page has. -/
def share {α : Type} (size : α → Nat) (room : Nat) : List α → List (List α)
  | [] => []
  | a :: rest =>
    match share size room rest with
    | [] => [[a]]
    | page :: pages =>
      if ((a :: page).map size).sum ≤ room then (a :: page) :: pages else [a] :: page :: pages

/-- A page of a kind with its cells, behind so many bytes at its front. -/
def page (front : Nat) (kind : PageKind) (cells : List (List UInt8)) (last : Nat) : List UInt8 :=
  let body := cells.flatten
  let start := pageSize - body.length
  let places := (cells.foldl (fun (places, place) c => (place :: places, place + c.length))
    (([] : List Nat), start)).1.reverse
  let head := [UInt8.ofNat kind.code, 0, 0] ++ Field.numberBytes 2 cells.length ++
    Field.numberBytes 2 start ++ [0] ++ (if kind = .branch then Field.numberBytes 4 last else []) ++
    places.flatMap (Field.numberBytes 2)
  head ++ List.replicate (start - front - head.length) 0 ++ body

/-- Pages at the end of a tree, each with the key of its last cell. -/
def leaves (cells : List (Int × List UInt8)) : List (Int × List UInt8) :=
  if cells.isEmpty then [(0, page 0 .leaf [] 0)]
  else
    (share (fun (_, cell) => cell.length + 2) (pageSize - PageKind.leaf.headSize) cells).map
      fun own =>
      (own.getLast?.elim 0 (·.1), page 0 .leaf (own.map (·.2)) 0)

/-- Pages above others, whose numbers begin with `first`, each with the last key below it. -/
def branches (first : Nat) (below : List (Int × List UInt8)) : List (Int × List UInt8) :=
  let children := below.zipIdx first |>.map fun ((key, _), n) => (key, n)
  let cell (key : Int) (n : Nat) := Field.numberBytes 4 n ++ Field.packedNumber (Field.unsigned key)
  (share (fun (key, n) => (cell key n).length + 2) (pageSize - PageKind.branch.headSize)
    children).map
    fun own =>
      let (key, n) := own.getLastD (0, 0)
      (key, page 0 .branch (own.dropLast.map fun (key, n) => cell key n) n)

/-- Puts pages above others until there is one; the pages, and the number of that one. -/
def raise : Nat → Nat → List (Int × List UInt8) → Nat × List (List UInt8)
  | 0, first, level => (first, level.map (·.2))
  | fuel + 1, first, level =>
    if level.length ≤ 1 then (first, level.map (·.2))
    else
      let (root, above) := raise fuel (first + level.length) (branches first level)
      (root, level.map (·.2) ++ above)

/-- New pages, whose numbers begin with `next`, for a tree of records in the order of their keys,
and the number of the page that it begins on. -/
def pages (next : Nat) (rows : List (Int × List Field)) : Nat × List (List UInt8) :=
  let (own, more) := cells next rows
  let (root, tree) := raise Image.maxDepth (next + more.length) (leaves own)
  (root, more ++ tree)

end Tree

end Subtitling.Catalog
