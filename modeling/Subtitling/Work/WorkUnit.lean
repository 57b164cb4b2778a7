import Subtitling.Request
import Subtitling.Service.Retry
import Subtitling.Subtitle.Track
import Subtitling.Text.Quoted
import Subtitling.Work.World

/-!
One subtitle from its source to its place beside the video. The source is read, its plain text goes
to the backend, the lines that come back are put in, the file is written in one step, and an entry
of the history tells of it. Each step is taken only when all before it succeeded, so a failure
leaves nothing behind but what the steps before it did.
-/

namespace Subtitling.Work

/-- Why a subtitle was not translated; each stage of the work has its own cause. -/
inductive Error
  | source (path : String) (reason : String)
  | service (e : Service.Error)
  | persist (path : String) (reason : String)
  | history (reason : String)
deriving DecidableEq

def Error.message : Error → String
  | .source path reason => "Unable to load source subtitle " ++ Text.quoted path ++ ": " ++ reason
  | .service e => "Translation failed: " ++ e.message
  | .persist path reason =>
    "Unable to save translated subtitles to " ++ Text.quoted path ++ ": " ++ reason
  | .history reason => "Unable to record history: " ++ reason

structure WorkUnit where
  request : Request
  /-- The subtitle that is read. -/
  sourcePath : String
  media : Catalog.Item
  settings : Service.Settings
deriving DecidableEq

namespace WorkUnit

def name (u : WorkUnit) : String :=
  "Translating " ++ u.request.source ++ " to " ++ u.request.target ++ " for " ++ u.media.title

def destination (u : WorkUnit) : String := u.request.destination u.media.videoPath

def progressId (u : WorkUnit) : String := Request.progressId u.destination

def metadata (u : WorkUnit) : Service.Metadata :=
  ⟨u.media.mediaId, u.media.title, u.request.source, u.request.target, u.request.kind⟩

def task (u : WorkUnit) (track : Subtitle.Track) : Service.Task :=
  ⟨track.plainTexts, u.metadata, u.settings, u.progressId⟩

def marker : String := "# Subtitles translated with AI Subtitle Translator #"

def content (track : Subtitle.Track) (lines : List Subtitle.Line) : List UInt8 :=
  Text.Utf8.encode ((track.splice lines).appendMarker marker).render.toList

def description (u : WorkUnit) : String :=
  Language.displayName u.request.source ++ " subtitles translated to " ++
    Language.displayName u.request.target ++ " using AI Subtitle Translator."

def entry (u : WorkUnit) (now : String) : Catalog.Entry where
  kind := u.request.kind
  ids := u.request.media.historyIds
  action := .translated
  language := u.request.targetTag
  source := u.request.source
  target := u.request.target
  description := u.description
  videoPath := u.media.videoPath
  subtitlePath := u.destination
  createdAt := now

def load (u : WorkUnit) (files : Files.Tree) : Except Error Subtitle.Track :=
  match Subtitle.Track.load files u.sourcePath with
  | .ok track => .ok track
  | .error e => .error (.source u.sourcePath e.message)

/-- Writes the result; a failure is told. -/
def write (u : WorkUnit) (around : Surroundings) (content : List UInt8) (w : World) :
    Except Error Unit × World :=
  match w.write around u.destination content with
  | (.ok (), w) => (.ok (), w)
  | (.error e, w) =>
    (.error (.persist u.destination e.message),
      w.message ("Translation failed: Unable to save translated subtitles to " ++ u.destination))

def record (u : WorkUnit) (around : Surroundings) (w : World) : Except Error Unit × World :=
  match w.record around (u.entry around.now) with
  | (.ok (), w) => (.ok (), w)
  | (.error reason, w) => (.error (.history reason), w)

def finish (u : WorkUnit) (around : Surroundings) (track : Subtitle.Track) (w : World) :
    Except Error Unit × World :=
  match w.translate around (u.task track) with
  | (.error e, w) => (.error (.service e), w)
  | (.ok lines, w) =>
    match u.write around (content track lines) w with
    | (.error e, w) => (.error e, w)
    | (.ok (), w) => u.record around w

/-- All steps. A source without cues needs none beyond reading it. -/
def steps (u : WorkUnit) (around : Surroundings) (w : World) : Except Error Unit × World :=
  match u.load w.files with
  | .error e => (.error e, w)
  | .ok track => if track.cues.isEmpty then (.ok (), w) else u.finish around track w

/-- Tells where the result is; a failure is told, and the entry of the progress goes away. -/
def tell (u : WorkUnit) : Except Error Unit × World → Except Error String × World
  | (.ok (), w) => (.ok u.destination, w)
  | (.error e, w) =>
    (.error e, (w.message ("AI translation failed: " ++ e.message)).hideEntry u.progressId)

/-- Translates the subtitle, with nothing between its steps. -/
def run (u : WorkUnit) (around : Surroundings) (w : World) : Except Error String × World :=
  u.tell (u.steps around w)

inductive Part
  | begun
  | read (track : Subtitle.Track)
  | translated (track : Subtitle.Track) (lines : List Subtitle.Line)
  | written

def ended (u : WorkUnit) (ending : Except Error Unit × World) :
    (Part ⊕ Except Error String) × World :=
  let (result, w) := u.tell ending
  (.inr result, w)

/-- The next step alone, after which others may have their turn: it leads to another part of the
work or to the end of it. -/
def advance (u : WorkUnit) (around : Surroundings) (part : Part) (w : World) :
    (Part ⊕ Except Error String) × World :=
  match part with
  | .begun =>
    match u.load w.files with
    | .error e => u.ended (.error e, w)
    | .ok track => if track.cues.isEmpty then u.ended (.ok (), w) else (.inl (.read track), w)
  | .read track =>
    match w.translate around (u.task track) with
    | (.error e, w) => u.ended (.error (.service e), w)
    | (.ok lines, w) => (.inl (.translated track lines), w)
  | .translated track lines =>
    match u.write around (content track lines) w with
    | (.error e, w) => u.ended (.error e, w)
    | (.ok (), w) => (.inl .written, w)
  | .written => u.ended (u.record around w)

end WorkUnit

end Subtitling.Work
