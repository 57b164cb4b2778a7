import Subtitling.Batch.Item
import Subtitling.Source.Resolution
import Subtitling.Work.Queue

/-!
Batches. Every item is read, looked up and given a source on its own, and then worked on at once or
handed to a queue; one that fails is skipped and never keeps the others from being tried. Counts and
error texts follow the order of the items.
-/

namespace Subtitling.Batch

/-- Outcome of a batch so far; the error texts are in the order of the items. -/
structure Result where
  queued : Nat
  skipped : Nat
  errors : List String
deriving DecidableEq

def Result.empty : Result := ⟨0, 0, []⟩

def Result.recordQueued (r : Result) : Result := { r with queued := r.queued + 1 }

/-- Counts an item that was not, and keeps the reason. -/
def Result.recordSkipped (r : Result) (error : String) : Result :=
  { r with skipped := r.skipped + 1, errors := r.errors ++ [error] }

open Work (World Surroundings WorkUnit Queue)

inductive ItemError
  | invalid (e : InvalidItem)
  | mediaNotFound (kind : Media.Kind) (id : Int)
  | noSubtitle (kind : Media.Kind) (id : Int) (language : String)
  | work (e : Work.Error)
  | dispatch (reason : String)
  | catalog (reason : String)
deriving DecidableEq

def ItemError.message : ItemError → String
  | .invalid e => e.message
  | .mediaNotFound kind id => kind.serviceName ++ " " ++ toString id ++ " not found"
  | .noSubtitle kind id language =>
    "No subtitle found for " ++ kind.name ++ " " ++ toString id ++ " (requested source: " ++
      language ++ ")"
  | .work e => e.message
  | .dispatch reason => "Unable to queue translation: " ++ reason
  | .catalog reason => "Catalog error: " ++ reason

structure Setup where
  resolver : Source.Resolver
  settings : Service.Settings

def findMedia (around : Surroundings) (w : World) (ref : Media.Ref) :
    Except ItemError Catalog.Item :=
  match w.lookup around ref with
  | .error reason => .error (.catalog reason)
  | .ok none => .error (.mediaNotFound ref.kind ref.lookupId)
  | .ok (some item) => .ok item

/-- The subtitle to read and the request in its language. One that the item names is taken as it is,
in the language that the item asks for. -/
def chooseSource (setup : Setup) (w : World) (request : Request) (media : Catalog.Item)
    (video : String) : Except ItemError (String × Request) :=
  match request.sourcePath with
  | some path => .ok (path, request)
  | none =>
    match setup.resolver.resolve w.files media.subtitles request.source video request.kind with
    | .ok found => .ok (found.path, request.withSource found.language)
    | .error _ => .error (.noSubtitle request.kind request.media.lookupId request.source)

def prepare (setup : Setup) (around : Surroundings) (value : Json) (w : World) :
    Except ItemError WorkUnit := do
  let request ← ((Item.ofJson value).request value.compact).mapError .invalid
  let media ← findMedia around w request.media
  let video := setup.resolver.mappings.map request.kind media.videoPath
  let (source, request) ← chooseSource setup w request media video
  return ⟨request, source, { media with videoPath := video }, setup.settings⟩

def Result.add (r : Result) : Except ItemError Unit → Result
  | .ok () => r.recordQueued
  | .error e => r.recordSkipped e.message

def runItem (setup : Setup) (around : Surroundings) (value : Json) (w : World) :
    Except ItemError Unit × World :=
  match prepare setup around value w with
  | .error e => (.error e, w)
  | .ok u =>
    match u.run around w with
    | (.ok _, w) => (.ok (), w)
    | (.error e, w) => (.error (.work e), w)

/-- Works on items one after the other, given what came of those before. -/
def runFrom (setup : Setup) (around : Surroundings) : List Json → Result → World → Result × World
  | [], r, w => (r, w)
  | value :: rest, r, w =>
    let (outcome, w) := runItem setup around value w
    runFrom setup around rest (r.add outcome) w

def runInline (setup : Setup) (around : Surroundings) (items : List Json) (w : World) :
    Result × World :=
  runFrom setup around items .empty w

def queueItem (setup : Setup) (around : Surroundings) (value : Json) (w : World) (q : Queue) :
    Except ItemError Unit × Queue :=
  match prepare setup around value w with
  | .error e => (.error e, q)
  | .ok u =>
    match q.enqueue w.session.cancelled u with
    | .error reason => (.error (.dispatch reason), q)
    | .ok q => (.ok (), q)

def queueFrom (setup : Setup) (around : Surroundings) (w : World) :
    List Json → Result → Queue → Result × Queue
  | [], r, q => (r, q)
  | value :: rest, r, q =>
    let (outcome, q) := queueItem setup around value w q
    queueFrom setup around w rest (r.add outcome) q

/-- Hands all items of a batch to a queue and waits until it is idle. -/
def runQueued (setup : Setup) (around : Surroundings) (workers : Nat) (items : List Json)
    (w : World) :
    Result × Queue × World :=
  let (result, q) := queueFrom setup around w items .empty (Queue.make workers)
  let (q, w) := q.drain around w
  (result, q, w)

end Subtitling.Batch
