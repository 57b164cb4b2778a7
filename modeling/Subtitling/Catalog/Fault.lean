/-!
What the engine of a database reports when it cannot go on: a text that says what happened, and a
code with a meaning of its own.
-/

namespace Subtitling.Catalog

inductive Fault
  /-- Something is asked for that there is not. -/
  | unknown (text : String)
  | notAllowed (text : String)
  | readOnly
  /-- A change was begun that would have to be taken back first. -/
  | unfinished
  /-- The file is there and cannot be read. -/
  | unreadable
  /-- A file that is needed to take a change back cannot be read. -/
  | unreadableJournal
  /-- There is no room, or no id, for another row. -/
  | full
  | malformed
  /-- What is said of a table, or of something like it, makes no sense. -/
  | malformedTable (name detail : String)
  | cannotOpen
  | notDatabase
  /-- A file that is in the way cannot be removed. -/
  | irremovable
deriving DecidableEq

namespace Fault

def text : Fault → String
  | .unknown text => text
  | .notAllowed text => text
  | .readOnly => "attempt to write a readonly database"
  | .unfinished => "attempt to write a readonly database"
  | .unreadable => "disk I/O error"
  | .unreadableJournal => "disk I/O error"
  | .full => "database or disk is full"
  | .malformed => "database disk image is malformed"
  | .malformedTable name detail => "malformed database schema (" ++ name ++ ")" ++ detail
  | .cannotOpen => "unable to open database file"
  | .notDatabase => "file is not a database"
  | .irremovable => "disk I/O error"

def code : Fault → Nat
  | .unknown _ => 1
  | .notAllowed _ => 3
  | .readOnly => 8
  | .unfinished => 776
  | .unreadable => 10
  | .unreadableJournal => 266
  | .full => 13
  | .malformed | .malformedTable _ _ => 11
  | .cannotOpen => 14
  | .notDatabase => 26
  | .irremovable => 2570

def meaning : Fault → String
  | .unknown _ => "SQL error or missing database"
  | .notAllowed _ => "Access permission denied"
  | .readOnly => "Attempt to write a readonly database"
  | .unfinished => "Database has hot journal that must be rolled back before it can be opened"
  | .unreadable => "Some kind of disk I/O error occurred"
  | .unreadableJournal => "Error reading from disk"
  | .full => "Insertion failed because database is full"
  | .malformed | .malformedTable _ _ => "The database disk image is malformed"
  | .cannotOpen => "Unable to open the database file"
  | .notDatabase => "File opened that is not a database file"
  | .irremovable => "I/O error within xDelete of a VFS object"

/-- The text, with more about it if there is more, and the code. -/
def messageWith (detail : String) (f : Fault) : String :=
  f.text ++ detail ++ ": Error code " ++ toString f.code ++ ": " ++ f.meaning

def message (f : Fault) : String := f.messageWith ""

end Fault

end Subtitling.Catalog
