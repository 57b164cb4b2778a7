import Subtitling.Files.Mapping
import Subtitling.Service.Payload
import Subtitling.Text.LowerCase
import Subtitling.Text.Pieces
import Subtitling.Web.Address

/-!
The configuration: how the service is reached and how long it is waited for, where the catalog's
paths lie on this machine, how batches are worked on, and where the catalog is kept. Every value has
a default. The items of a batch are worked on one after the other while it is read, or handed to a
queue. Beyond the types of its values a configuration has to pass a few checks, of which the first
that fails is told.
-/

namespace Subtitling.Batch

inductive Dispatch
  | inline
  | queue
deriving DecidableEq

def Dispatch.name : Dispatch → String
  | .inline => "inline"
  | .queue => "queue"

def Dispatch.parse? (text : String) : Option Dispatch :=
  let folded := Text.lower (Text.trimmed text)
  if folded = "inline" then some .inline
  else if folded = "queue" then some .queue
  else none

def Dispatch.invalidMessage (text : String) : String := "Invalid dispatch policy: " ++ text

end Subtitling.Batch

namespace Subtitling.Config

inductive LogLevel
  | error
  | warn
  | info
  | debug
  | trace
deriving DecidableEq

def LogLevel.all : List LogLevel := [.error, .warn, .info, .debug, .trace]

def LogLevel.name : LogLevel → String
  | .error => "error"
  | .warn => "warn"
  | .info => "info"
  | .debug => "debug"
  | .trace => "trace"

/-- How the service is reached; times are in seconds unless their names say milliseconds. -/
structure ServiceSection where
  url : String
  settings : Service.Settings
  submitTimeout : Nat
  pollTimeout : Nat
  syncTimeout : Nat
  statusTimeout : Nat
  pollInterval : Nat
  maxWait : Nat
  retryAttempts : Nat
  retryBackoffMilliseconds : Nat
  retryJitterMilliseconds : Nat
deriving DecidableEq

structure BatchSection where
  dispatch : Batch.Dispatch
  workers : Nat
deriving DecidableEq

end Config

structure Config where
  service : Config.ServiceSection
  mappings : Files.Mappings
  batch : Config.BatchSection
  databasePath : Option String
  logLevel : Config.LogLevel
deriving DecidableEq

namespace Config

def defaultSettings : Service.Settings where
  apiKey := ""
  model := "google/gemini-2.5-flash-preview-05-20"
  temperature := .ofDecimal false 3 (-1)
  maxConcurrentJobs := 2
  reasoning := .disabled

def ServiceSection.default : ServiceSection where
  url := "http://localhost:3000"
  settings := defaultSettings
  submitTimeout := 30
  pollTimeout := 10
  syncTimeout := 1800
  statusTimeout := 10
  pollInterval := 2
  maxWait := 1800
  retryAttempts := 3
  retryBackoffMilliseconds := 1000
  retryJitterMilliseconds := 1000

def BatchSection.default : BatchSection := ⟨.inline, 2⟩

def default : Config := ⟨.default, .identity, .default, none, .info⟩

def number (n : Nat) : Json := Json.ofInt n

def ServiceSection.toJson (s : ServiceSection) : Json :=
  .object [
    ("url", .string s.url),
    ("api_key", .string s.settings.apiKey),
    ("model", .string s.settings.model),
    ("temperature", Service.temperatureJson s.settings.temperature),
    ("max_concurrent_jobs", number s.settings.maxConcurrentJobs),
    ("reasoning", .string s.settings.reasoning.name),
    ("submit_timeout_secs", number s.submitTimeout),
    ("poll_timeout_secs", number s.pollTimeout),
    ("sync_timeout_secs", number s.syncTimeout),
    ("status_timeout_secs", number s.statusTimeout),
    ("poll_interval_secs", number s.pollInterval),
    ("max_wait_secs", number s.maxWait),
    ("retry_attempts", number s.retryAttempts),
    ("retry_backoff_ms", number s.retryBackoffMilliseconds),
    ("retry_jitter_ms", number s.retryJitterMilliseconds)]

def ruleJson (rule : Files.MappingRule) : Json :=
  .object [("from", .string rule.source), ("to", .string rule.target)]

/-- The configuration as it is written, with its fields in a fixed order. -/
def toJson (c : Config) : Json :=
  .object [
    ("translator", c.service.toJson),
    ("path_mappings", .object [
      ("series", .array (c.mappings.series.map ruleJson)),
      ("movies", .array (c.mappings.movies.map ruleJson))]),
    ("batch", .object [
      ("dispatch", .string c.batch.dispatch.name),
      ("queue_workers", number c.batch.workers)]),
    ("database_path", match c.databasePath with
      | some path => .string path
      | none => .null),
    ("log_level", .string c.logLevel.name)]

inductive Fault
  | missingUrl
  | invalidUrl (url : String)
  | unsupportedScheme (url : String)
  | temperature (value : Number.Single)
  | noConcurrentJobs
  | noPollInterval
deriving DecidableEq

def Fault.message : Fault → String
  | .missingUrl => "Translation service URL is required"
  | .invalidUrl url => "Invalid translation service URL: " ++ url
  | .unsupportedScheme url => "Translation service URL must use http or https: " ++ url
  | .temperature value =>
    "Temperature must be between 0.0 and 2.0, got " ++
      Number.single.write Number.Layout.plain value.bits
  | .noConcurrentJobs => "max_concurrent_jobs must be at least 1"
  | .noPollInterval => "poll_interval_secs must be at least 1"

/-- Whether a temperature lies between zero, in either sign, and two. -/
def isTemperature (x : Number.Single) : Bool :=
  match x.reading with
  | .finite negative m q =>
    let (n, d) := Number.Double.ratio m q
    if negative then m = 0 else n ≤ 2 * d
  | _ => false

def checkUrl (url : String) : Except Fault Unit :=
  if Text.isBlankText url then .error .missingUrl
  else
    match Web.Address.parse? (Text.trimmed url) with
    | none => .error (.invalidUrl url)
    | some address =>
      if address.isService then .ok () else .error (.unsupportedScheme address.text)

def check (c : Config) : Except Fault Unit := do
  checkUrl c.service.url
  let settings := c.service.settings
  if !isTemperature settings.temperature then throw (.temperature settings.temperature)
  if settings.maxConcurrentJobs = 0 then throw .noConcurrentJobs
  if c.service.pollInterval = 0 then throw .noPollInterval

/-- Where the catalog is kept, if the configuration says so. -/
def databaseFile? (c : Config) : Option String :=
  (c.databasePath.map Text.trimmed).filter fun path => !path.isEmpty

end Subtitling.Config
