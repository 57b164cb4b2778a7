import Subtitling.Catalog.Column
import Subtitling.Catalog.Fault
import Subtitling.Catalog.Schema
import Subtitling.Catalog.Store

/-!
A catalog while it is open. Its tables need not all be there, as those of another version are
left alone, and it may be that nothing can be changed. What is asked for in vain is a fault; a
fault leaves the catalog as it was.
-/

namespace Subtitling.Catalog

structure Connection where
  tables : List String
  store : Store
  /-- Why nothing can be changed, if so. -/
  refusal : Option Fault

namespace Connection

/-- A catalog in memory, before anything is in it. -/
def fresh : Connection := ⟨Schema.allTables, .empty, none⟩

def hasTable (c : Connection) (table : String) : Bool :=
  c.tables.any fun name => Token.fold name.toList = table

def query {α : Type} (c : Connection) (table : String) (read : Store → α) : Except Fault α :=
  if c.hasTable table then .ok (read c.store) else .error (.unknown ("no such table: " ++ table))

def change (c : Connection) (table : String) (f : Store → Store) : Except Fault Connection := do
  let store ← c.query table f
  match c.refusal with
  | some fault => throw fault
  | none => return { c with store := store }

def putEpisode (c : Connection) (e : Episode) : Except Fault Connection :=
  c.change "episodes" fun s => s.putEpisode e

def putMovie (c : Connection) (m : Movie) : Except Fault Connection :=
  c.change "movies" fun s => s.putMovie m

/-- Adds a row to the history, as long as there are ids. -/
def addRow (c : Connection) (row : Nat → Row) : Except Fault Connection := do
  let grown ← c.change "history" fun s => s.addRow row
  if c.store.isFull then throw .full else return grown

/-- Adds an entry to the history, and tells the id that it got. -/
def addEntry (c : Connection) (e : Entry) : Except Fault (Nat × Connection) :=
  (c.addRow e.row).map fun grown => (c.store.nextId, grown)

def episode? (c : Connection) (id : Int) : Except Fault (Option Episode) :=
  c.query "episodes" fun s => s.episode? id

def movie? (c : Connection) (id : Int) : Except Fault (Option Movie) :=
  c.query "movies" fun s => s.movie? id

/-- A count of 64 bits as the engine takes it, which gives it a sign. -/
def signedCount (n : Nat) : Int := (n : Int).bmod (Nat.pow 2 64)

/-- The newest entries of the history, at most `limit`, which has 64 bits. -/
def newest (c : Connection) (limit : Nat) : Except Fault (Except InvalidRow (List (Nat × Entry))) :=
  c.query "history" fun s => s.newest (signedCount limit)

end Connection

end Subtitling.Catalog
