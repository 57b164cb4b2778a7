import Subtitling.Json.Printer
import Subtitling.Number.Text
import Subtitling.Request

/-!
Items of a batch as they arrive: JSON objects whose fields may be missing or of the wrong type.
Each field is read on its own, one that cannot be read counts as missing, and only then is the item
checked as a whole.
-/

namespace Subtitling.Batch

structure Item where
  type : Option String
  seriesId : Option Int
  episodeId : Option Int
  movieId : Option Int
  sourceLanguage : Option String
  targetLanguage : Option String
  subtitlePath : Option String
  forced : Bool
  hi : Bool
deriving DecidableEq

inductive InvalidItem
  | missingFields (raw : String)
  | invalidType (type : String)
  | missingIds (names : String)
deriving DecidableEq

def InvalidItem.message : InvalidItem → String
  | .missingFields raw => "Missing required fields in item: " ++ raw
  | .invalidType type => "Invalid type \"" ++ type ++ "\" in item"
  | .missingIds names => "Missing " ++ names

/-- The first of the fields with a value other than null. -/
def firstField (value : Json) (keys : List String) : Option Json :=
  (keys.filterMap value.get?).find? fun v => !v.isNull

def textField (value : Json) (key : String) : Option String :=
  (firstField value [key]).bind Json.asString?

/-- The nearest number of signed 64 bits. -/
def clampWord (n : Int) : Int := max (-(Nat.pow 2 63 : Int)) (min n (Nat.pow 2 63 - 1))

/-- A whole number, and where it does not fit signed 64 bits the nearest that does. -/
def idOfNumber : Json.Number → Option Int
  | .int n => some (clampWord n)
  | .real x => x.toInt?.map clampWord

/-- An id: a whole number, or a text of one. -/
def idField (value : Json) (keys : List String) : Option Int :=
  match firstField value keys with
  | some (.number n) => idOfNumber n
  | some (.string s) => Number.signed? (Text.trim s.toList)
  | _ => none

def refusals : List String := ["", "false", "0", "no"]

/-- A flag: what is no boolean is set by any number but zero and any text that does not mean no. -/
def flagField (value : Json) (key : String) : Bool :=
  match value.get? key with
  | some (.bool b) => b
  | some (.number (.int n)) => n != 0
  | some (.number (.real x)) => !x.isZero
  | some (.string s) => !refusals.contains (Text.lower (Text.trimmed s))
  | _ => false

/-- Reads an item; what is no object has no fields. -/
def Item.ofJson (value : Json) : Item where
  type := textField value "type"
  seriesId := idField value ["seriesId", "sonarrSeriesId"]
  episodeId := idField value ["episodeId", "sonarrEpisodeId"]
  movieId := idField value ["movieId", "radarrId"]
  sourceLanguage := textField value "sourceLanguage"
  targetLanguage := textField value "targetLanguage"
  subtitlePath := textField value "subtitlePath"
  forced := flagField value "forced"
  hi := flagField value "hi"

/-- A text that is there and not blank, trimmed. -/
def present (text : Option String) : Option String :=
  (text.map Text.trimmed).filter fun s => !s.isEmpty

/-- An id that is there and not zero. -/
def presentId (id : Option Int) : Option Int := id.filter (· ≠ 0)

def Item.media (item : Item) (type : String) : Except InvalidItem Media.Ref :=
  if type = "episode" then
    match presentId item.seriesId, presentId item.episodeId with
    | some seriesId, some episodeId => .ok (.episode seriesId episodeId)
    | _, _ => .error (.missingIds "seriesId or episodeId")
  else if type = "movie" then
    match presentId item.movieId with
    | some movieId => .ok (.movie movieId)
    | none => .error (.missingIds "movieId")
  else .error (.invalidType type)

/-- The request that an item makes; `raw` is the item as its errors quote it. -/
def Item.request (item : Item) (raw : String) : Except InvalidItem Request :=
  match present item.type, present item.sourceLanguage, present item.targetLanguage with
  | some type, some source, some target => do
    let media ← item.media type
    return Request.make media source target item.forced item.hi (present item.subtitlePath)
  | _, _, _ => .error (.missingFields raw)

end Subtitling.Batch
