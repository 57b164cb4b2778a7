/-!
The tables of the catalog and the version they are in. A database without a version gets all tables;
one of an older version cannot be brought up to date, and one of a newer version is left alone.
-/

namespace Subtitling.Catalog

/-- The tables of a database, and the version it holds if it has a table for it. -/
structure Schema where
  tables : List String
  version : Option Int
deriving DecidableEq

structure UnknownVersion where
  version : Int
deriving DecidableEq

def UnknownVersion.message (e : UnknownVersion) : String :=
  "Unknown schema version: " ++ toString e.version ++ ". Cannot migrate."

namespace Schema

def current : Int := 1

def versionTable : String := "schema_version"

/-- All tables, in the order of their names. -/
def allTables : List String := ["episodes", "history", "movies", versionTable]

def empty : Schema := ⟨[], none⟩

/-- A version as it is read: without its table, without a row, or past 32 bits it is zero. -/
def readVersion (s : Schema) : Int :=
  if s.tables.contains versionTable then
    (s.version.filter fun v => -(Nat.pow 2 31 : Int) ≤ v && v < Nat.pow 2 31).getD 0
  else 0

def isNew (s : Schema) : Bool := s.readVersion = 0

def setUp (s : Schema) : Except UnknownVersion Schema :=
  if s.isNew then .ok ⟨allTables, some current⟩
  else if s.readVersion < current then .error ⟨s.readVersion⟩
  else .ok s

end Schema

end Subtitling.Catalog
