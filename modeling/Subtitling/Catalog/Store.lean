import Subtitling.Catalog.History
import Subtitling.Catalog.Record

/-!
The catalog as a value: episodes and movies by their ids, and the history with the newest row
first. A record that is put in takes over the row with its id; history only grows, and every row
has a greater id than those before it.
-/

namespace Subtitling.Catalog

structure Store where
  episodes : List Episode
  movies : List Movie
  /-- Newest first. -/
  history : List Row

namespace Store

def empty : Store := ⟨[], [], []⟩

/-- Puts a record at the end, unless there is a row with its key, which is then updated by it. -/
def put {α : Type} (key : α → Int) (update : α → α → α) (record : α) : List α → List α
  | [] => [record]
  | r :: rest =>
    if key r = key record then update r record :: rest else r :: put key update record rest

def putEpisode (s : Store) (e : Episode) : Store :=
  { s with episodes := put Episode.id Episode.takeOver e s.episodes }

def putMovie (s : Store) (m : Movie) : Store :=
  { s with movies := put Movie.id Movie.takeOver m s.movies }

def episode? (s : Store) (id : Int) : Option Episode := s.episodes.find? (·.id = id)

def movie? (s : Store) (id : Int) : Option Movie := s.movies.find? (·.id = id)

def item? (s : Store) : Media.Ref → Option Item
  | .episode _ id => (s.episode? id).map Episode.item
  | .movie id => (s.movie? id).map Movie.item

def nextId (s : Store) : Nat :=
  match s.history with
  | [] => 1
  | row :: _ => row.id + 1

def maxId : Nat := Nat.pow 2 63 - 1

def isFull (s : Store) : Bool := maxId < s.nextId

def addRow (s : Store) (row : Nat → Row) : Store := { s with history := row s.nextId :: s.history }

def addEntry (s : Store) (e : Entry) : Store := s.addRow e.row

/-- The newest rows, at most `limit`; all of them if it is below zero. -/
def newestRows (s : Store) (limit : Int) : List Row :=
  if limit < 0 then s.history else s.history.take limit.toNat

/-- The newest entries, at most `limit`; a row that does not read back makes them all unreadable. -/
def newest (s : Store) (limit : Int) : Except InvalidRow (List (Nat × Entry)) :=
  (s.newestRows limit).mapM Row.read

end Store

end Subtitling.Catalog
