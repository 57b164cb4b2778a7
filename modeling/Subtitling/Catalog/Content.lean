import Subtitling.Catalog.Column
import Subtitling.Catalog.Page
import Subtitling.Catalog.Schema
import Subtitling.Catalog.Store

/-!
What the file of a database holds: which tables there are, and the records in those of the
catalog. The first tree of a file has a record for each table, with its name, its definition and
the page that its own tree begins on. `Content.read` reads a file, and `Content.pages` lays the
tables of a catalog out on new pages.
-/

namespace Subtitling.Catalog

structure Table where
  name : String
  columns : List Column
  /-- The page that its records begin on. -/
  root : Nat

namespace Table

/-- The value that a record has in a column; one that was added later is null. -/
def value? (t : Table) (row : Int × List Field) (column : String) : Option Field :=
  match t.columns.zipIdx.find? fun (c, _) => c.name = column with
  | none => none
  | some (c, i) => some (if c.isKey then .integer row.1 else row.2.getD i .null)

end Table

structure Content where
  schema : Schema
  store : Store

namespace Content

def empty : Content := ⟨.empty, .empty⟩

def isDefinition (text : String) : Bool := (text.toList.take 2).map Char.toLower = ['c', 'r']

/-- A record of the first tree, if it is one of a table. The others are about indexes and the
like. -/
def readTable (pages : Nat) (form : Field.TextForm) (row : Int × List Field) :
    Except Fault (Option Table) :=
  let field (i : Nat) := row.2.getD i .null
  let name := (field 1).text? form
  let definition := (field 4).text? form
  let damaged (detail : String) := Except.error (.malformedTable (name.getD "?") detail)
  if field 3 = .null then damaged ""
  else if definition.any isDefinition then
    match (field 3).integer? with
    | none => damaged " - invalid rootpage"
    | some root =>
      if root < 0 || pages < root then damaged " - invalid rootpage"
      else if (field 0).text? form = some "table" then
        .ok (some ⟨name.getD "", Column.ofDefinition (definition.getD ""), root.toNat⟩)
      else .ok none
  else if name.isNone || definition.any fun d => !d.isEmpty then damaged ""
  else .ok none

def readTables (im : Image) (form : Field.TextForm) : Except Fault (List Table) := do
  let rows ← im.rows 1
  return (← rows.mapM (readTable im.pages.size form)).filterMap id

/-- What each record of a table stands for; those that stand for nothing are left out. A table that
cannot be read has no records. -/
def readRows {α : Type} (im : Image) (tables : List Table) (name : String)
    (read? : (String → Option Field) → Option α) : List α :=
  match tables.find? fun t => Token.fold t.name.toList = name with
  | none => []
  | some t =>
    ((im.rows t.root).toOption.getD []).filterMap fun row => read? (t.value? row)

def episode? (form : Field.TextForm) (value? : String → Option Field) : Option Episode := do
  return {
    id := ← (← value? "episode_id").integer?
    seriesId := ← (← value? "series_id").integer?
    seriesTitle := ← (← value? "series_title").text? form
    title := ← (← value? "title").text? form
    season := ← (← value? "season").integer?
    number := ← (← value? "episode").integer?
    path := ← (← value? "path").text? form
    subtitles := ← (← value? "subtitles").optional? (Field.text? form) }

def movie? (form : Field.TextForm) (value? : String → Option Field) : Option Movie := do
  return {
    id := ← (← value? "movie_id").integer?
    title := ← (← value? "title").text? form
    path := ← (← value? "path").text? form
    subtitles := ← (← value? "subtitles").optional? (Field.text? form) }

def row? (form : Field.TextForm) (value? : String → Option Field) : Option Row := do
  let ids : Media.Ids := ⟨← (← value? "series_id").optional? Field.integer?,
    ← (← value? "episode_id").optional? Field.integer?,
    ← (← value? "movie_id").optional? Field.integer?⟩
  return {
    id := (← (← value? "id").integer?).toNat
    kind := ← (← value? "media_kind").text? form
    ids := ids
    action := ← (← value? "action").integer?
    language := ← (← value? "language").text? form
    source := ← (← value? "source_language").text? form
    target := ← (← value? "target_language").text? form
    description := ← (← value? "description").text? form
    videoPath := ← (← value? "video_path").text? form
    subtitlePath := ← (← value? "subtitle_path").text? form
    createdAt := ← (← value? "created_at").text? form }

/-- What a file holds. The version stands in the first record of its table. -/
def read (im : Image) (form : Field.TextForm) : Except Fault Content := do
  let tables ← readTables im form
  let versions := readRows im tables Schema.versionTable fun value? => some (value? "version")
  return {
    schema := ⟨tables.map (·.name), versions.head?.bind fun v => v.bind Field.integer?⟩
    store := ⟨readRows im tables "episodes" (episode? form),
      readRows im tables "movies" (movie? form),
      (readRows im tables "history" (row? form)).reverse⟩ }

/-- The columns of the tables as they are defined, by the names of the tables. -/
def definitions : List (String × List String) := [
  (Schema.versionTable, ["id INTEGER PRIMARY KEY CHECK (id = 1)", "version INTEGER NOT NULL",
    "updated_at TEXT NOT NULL"]),
  ("episodes", ["episode_id INTEGER PRIMARY KEY", "series_id INTEGER NOT NULL",
    "series_title TEXT NOT NULL DEFAULT ''", "title TEXT NOT NULL DEFAULT ''",
    "season INTEGER NOT NULL DEFAULT 0", "episode INTEGER NOT NULL DEFAULT 0",
    "path TEXT NOT NULL", "subtitles TEXT"]),
  ("movies", ["movie_id INTEGER PRIMARY KEY", "title TEXT NOT NULL DEFAULT ''",
    "path TEXT NOT NULL", "subtitles TEXT"]),
  ("history", ["id INTEGER PRIMARY KEY AUTOINCREMENT", "media_kind TEXT NOT NULL",
    "series_id INTEGER", "episode_id INTEGER", "movie_id INTEGER", "action INTEGER NOT NULL",
    "language TEXT NOT NULL", "source_language TEXT NOT NULL", "target_language TEXT NOT NULL",
    "description TEXT NOT NULL", "video_path TEXT NOT NULL", "subtitle_path TEXT NOT NULL",
    "created_at TEXT NOT NULL"]),
  ("sqlite_sequence", ["name", "seq"])]

def definition (table : String) (columns : List String) : String :=
  "CREATE TABLE " ++ table ++ "(" ++ ", ".intercalate columns ++ ")"

def episodeRecord (e : Episode) : Int × List Field :=
  (e.id, [.null, .integer e.seriesId, .ofString e.seriesTitle, .ofString e.title, .integer e.season,
    .integer e.number, .ofString e.path, Field.ofOption Field.ofString e.subtitles])

def movieRecord (m : Movie) : Int × List Field :=
  (m.id, [.null, .ofString m.title, .ofString m.path, Field.ofOption Field.ofString m.subtitles])

def historyRecord (r : Row) : Int × List Field :=
  (r.id, [.null, .ofString r.kind, Field.ofOption Field.integer r.ids.series,
    Field.ofOption Field.integer r.ids.episode, Field.ofOption Field.integer r.ids.movie,
    .integer r.action, .ofString r.language, .ofString r.source, .ofString r.target,
    .ofString r.description, .ofString r.videoPath, .ofString r.subtitlePath,
    .ofString r.createdAt])

/-- The records of a table, in the order of their keys. -/
def records (s : Store) (table : String) : List (Int × List Field) :=
  let sorted := fun (rows : List (Int × List Field)) => rows.mergeSort fun a b => a.1 ≤ b.1
  match table with
  | "schema_version" => [(1, [.null, .integer Schema.current, .ofString ""])]
  | "episodes" => sorted (s.episodes.map episodeRecord)
  | "movies" => sorted (s.movies.map movieRecord)
  | "history" => sorted (s.history.map historyRecord)
  | "sqlite_sequence" => [(1, [.ofString "history", .integer (s.nextId - 1)])]
  | _ => []

/-- The trees of tables on pages whose numbers begin with `next`, and what the first tree of a file
says of each. -/
def trees (s : Store) : Nat → List (String × List String) → List (List Field) × List (List UInt8)
  | _, [] => ([], [])
  | next, (name, columns) :: rest =>
    let (root, pages) := Tree.pages next (records s name)
    let (others, more) := trees s (next + pages.length) rest
    ([.ofString "table", .ofString name, .ofString name, .integer root,
      .ofString (definition name columns)] :: others, pages ++ more)

/-- The records of the first tree of a file, and the pages behind the first. -/
def pages (s : Store) : List (Int × List Field) × List (List UInt8) :=
  let (tables, pages) := trees s 2 definitions
  (tables.zipIdx.map fun (fields, i) => ((i + 1 : Nat), fields), pages)

end Content

end Subtitling.Catalog
