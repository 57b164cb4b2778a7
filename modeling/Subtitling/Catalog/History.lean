import Subtitling.Media.Kind

/-!
The history of subtitles: what became of them, and when. Rows are kept as texts and numbers, so a
row that was written by others may not read back.
-/

namespace Subtitling.Catalog

inductive Action
  | downloaded
  | uploaded
  | translated
deriving DecidableEq

namespace Action

def name : Action → String
  | .downloaded => "downloaded"
  | .uploaded => "uploaded"
  | .translated => "translated"

def code : Action → Int
  | .downloaded => 1
  | .uploaded => 4
  | .translated => 6

def ofCode? (code : Int) : Option Action :=
  if code = 1 then some .downloaded
  else if code = 4 then some .uploaded
  else if code = 6 then some .translated
  else none

theorem ofCode_code (a : Action) : ofCode? a.code = some a := by cases a <;> rfl

end Action

structure Entry where
  kind : Media.Kind
  ids : Media.Ids
  action : Action
  /-- The tag of the subtitle. -/
  language : String
  source : String
  target : String
  description : String
  videoPath : String
  subtitlePath : String
  createdAt : String
deriving DecidableEq

structure Row where
  id : Nat
  kind : String
  ids : Media.Ids
  action : Int
  language : String
  source : String
  target : String
  description : String
  videoPath : String
  subtitlePath : String
  createdAt : String
deriving DecidableEq

inductive InvalidRow
  | kind (text : String)
  | action (code : Int)
deriving DecidableEq

def InvalidRow.message : InvalidRow → String
  | .kind text => Media.Kind.invalidMessage text
  | .action code => "Unknown history action code: " ++ toString code

def Entry.row (e : Entry) (id : Nat) : Row :=
  ⟨id, e.kind.name, e.ids, e.action.code, e.language, e.source, e.target, e.description,
    e.videoPath, e.subtitlePath, e.createdAt⟩

def Row.entry (r : Row) : Except InvalidRow Entry :=
  match Media.Kind.parse? r.kind with
  | none => .error (.kind r.kind)
  | some kind =>
    match Action.ofCode? r.action with
    | none => .error (.action r.action)
    | some action =>
      .ok ⟨kind, r.ids, action, r.language, r.source, r.target, r.description, r.videoPath,
        r.subtitlePath, r.createdAt⟩

def Row.read (r : Row) : Except InvalidRow (Nat × Entry) := r.entry.map fun e => (r.id, e)

end Subtitling.Catalog
