import Subtitling.Catalog.Store
import Subtitling.Files.AtomicWrite
import Subtitling.Service.Client

/-!
What work on subtitles acts on, and what it depends on without acting on it.
-/

namespace Subtitling.Work

structure World where
  files : Files.Tree
  store : Catalog.Store
  session : Service.Session
  /-- The tasks that were handed to the backend. -/
  tasks : List Service.Task
  /-- How often an entry of the history was to be recorded. -/
  recordings : Nat

structure Surroundings where
  backend : Service.Backend
  /-- Whether recording fails, told how often it was tried before, and why. -/
  recordingFault : Nat → Option String
  /-- Whether the catalog cannot be asked, and why. -/
  lookupFault : Option String
  /-- Faults of the disk while a result is written. -/
  diskFaults : Files.Faults
  /-- The time that entries of the history are given. -/
  now : String

namespace World

def start (files : Files.Tree) (store : Catalog.Store) (cancelled : Bool) : World :=
  ⟨files, store, .start cancelled, [], 0⟩

def message (w : World) (text : String) : World := { w with session := w.session.message text }

def hideEntry (w : World) (id : String) : World := { w with session := w.session.hideEntry id }

def translate (w : World) (around : Surroundings) (task : Service.Task) :
    Except Service.Error (List Subtitle.Line) × World :=
  let (result, session) := around.backend task w.session
  (result, { w with session := session, tasks := w.tasks ++ [task] })

def record (w : World) (around : Surroundings) (e : Catalog.Entry) : Except String Unit × World :=
  let tried := { w with recordings := w.recordings + 1 }
  match around.recordingFault w.recordings with
  | some reason => (.error reason, tried)
  | none => (.ok (), { tried with store := w.store.addEntry e })

def write (w : World) (around : Surroundings) (path : String) (content : List UInt8) :
    Except Files.WriteError Unit × World :=
  let run := Files.writeAtomicWith around.diskFaults w.files path content
  (run.result, { w with files := run.final w.files })

def lookup (w : World) (around : Surroundings) (ref : Media.Ref) :
    Except String (Option Catalog.Item) :=
  match around.lookupFault with
  | some reason => .error reason
  | none => .ok (w.store.item? ref)

end World

end Subtitling.Work
