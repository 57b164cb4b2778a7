import Subtitling.Files.Path
import Subtitling.Language.Code
import Subtitling.Media.Kind

/-!
A request to translate a subtitle: which item, from which language into which, and which kind of
track. Language codes are folded when a request is made, and the name of the subtitle that comes
out follows from the video and the target alone.
-/

namespace Subtitling

structure Request where
  media : Media.Ref
  source : String
  target : String
  forced : Bool
  hi : Bool
  /-- The subtitle to read, when the caller names one. -/
  sourcePath : Option String
deriving DecidableEq

namespace Request

/-- A request with folded language codes. -/
def make (media : Media.Ref) (source target : String) (forced hi : Bool)
    (sourcePath : Option String) : Request :=
  ⟨media, Language.fold source, Language.fold target, forced, hi, sourcePath⟩

def withSource (r : Request) (language : String) : Request :=
  { r with source := Language.fold language }

def kind (r : Request) : Media.Kind := r.media.kind

def targetTag (r : Request) : String :=
  if r.hi then r.target ++ ":hi" else if r.forced then r.target ++ ":forced" else r.target

/-- The name of the subtitle that comes out, for a video of a given stem. -/
def destinationName (r : Request) (stem : String) : String :=
  stem ++ "." ++ r.target ++ (if r.hi then ".hi" else "") ++ (if r.forced then ".forced" else "") ++
    ".srt"

/-- Where the subtitle goes: next to the video. -/
def destination (r : Request) (video : String) : String :=
  let name := r.destinationName ((Files.Path.stem? video).getD "")
  match Files.Path.parent? video with
  | some dir => Files.Path.join dir name
  | none => name

def progressId (destination : String) : String := "translate_progress_" ++ destination

end Request

end Subtitling
