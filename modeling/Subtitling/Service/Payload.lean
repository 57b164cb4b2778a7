import Subtitling.Language.Code
import Subtitling.Media.Kind
import Subtitling.Number.Shortest
import Subtitling.Number.Text
import Subtitling.Service.Lines

/-!
What is sent to have lines translated: the lines by position, what the service is told about the
media they belong to, and the settings of the model that does the work.
-/

namespace Subtitling.Service

inductive Reasoning
  | disabled
  | low
  | medium
  | high
deriving DecidableEq

namespace Reasoning

def name : Reasoning → String
  | .disabled => "disabled"
  | .low => "low"
  | .medium => "medium"
  | .high => "high"

/-- Reads an effort by its name; "none" and "off" disable reasoning too. -/
def parse? (text : String) : Option Reasoning :=
  let folded := Text.lower (Text.trimmed text)
  if folded = "disabled" || folded = "none" || folded = "off" then some .disabled
  else if folded = "low" then some .low
  else if folded = "medium" then some .medium
  else if folded = "high" then some .high
  else none

def invalidMessage (text : String) : String := "Invalid reasoning effort: " ++ text

def maxTokens? : Reasoning → Option Nat
  | .disabled => none
  | .low => some 1000
  | .medium => some 2000
  | .high => some 4000

def toJson (r : Reasoning) : Json :=
  match r.maxTokens? with
  | none => .null
  | some tokens => .ofFields [("enabled", .bool true), ("maxTokens", Json.ofInt tokens)]

end Reasoning

structure Settings where
  apiKey : String
  model : String
  temperature : Number.Single
  /-- A hint for the service. -/
  maxConcurrentJobs : Nat
  reasoning : Reasoning
deriving DecidableEq

structure Metadata where
  mediaId : Int
  title : String
  source : String
  target : String
  kind : Media.Kind
deriving DecidableEq

/-- The text of a number of 32 bits: as few digits as read back, and always a fraction or an
exponent. -/
def temperatureText (x : Number.Single) : String := Number.single.write Number.Layout.marked x.bits

/-- A number of 32 bits as a number of JSON, with the digits of its text. -/
def temperatureJson (x : Number.Single) : Json :=
  match (Number.Double.parse? (temperatureText x).toList).filter Number.Double.isFinite with
  | some y => .number (.real y)
  | none => .null

structure Payload where
  metadata : Metadata
  lines : List Subtitle.Line
  settings : Settings
deriving DecidableEq

def Payload.make (texts : List String) (metadata : Metadata) (settings : Settings) : Payload :=
  ⟨metadata, numberLines texts, settings⟩

/-- The payload as it is sent; languages are in the spelling of the service. -/
def Payload.toJson (p : Payload) : Json :=
  .ofFields [
    ("arrMediaId", Json.ofInt p.metadata.mediaId),
    ("title", .string p.metadata.title),
    ("sourceLanguage", .string (Language.serviceCode p.metadata.source)),
    ("targetLanguage", .string (Language.serviceCode p.metadata.target)),
    ("mediaType", .string p.metadata.kind.serviceName),
    ("lines", .array (p.lines.map lineRecord)),
    ("config", .ofFields [
      ("apiKey", .string p.settings.apiKey),
      ("model", .string p.settings.model),
      ("temperature", temperatureJson p.settings.temperature),
      ("maxConcurrentJobs", Json.ofInt p.settings.maxConcurrentJobs),
      ("reasoning", p.settings.reasoning.toJson)])]

end Subtitling.Service
