import Subtitling.Config.Basic
import Subtitling.Files.Tree
import Subtitling.Json.Record
import Subtitling.Text.Quoted
import Subtitling.Text.Utf8

/-!
Reading a configuration. Fields that are not given have their defaults, and fields that are not
known are passed over; a known one has to be of its type, and a number has to be written as whole
where one is wanted. Where there is no file yet, one is made that spells out the defaults.
-/

namespace Subtitling.Config

open Json (Source Record)

def readText : Source → Option String
  | .string units => (Json.text? units).map String.ofList
  | _ => none

def readNatural (bound : Nat) : Source → Option Nat
  | .number n =>
    match n.value? with
    | some (.int k) => if 0 ≤ k && k.toNat < bound then some k.toNat else none
    | _ => none
  | _ => none

/-- A number of 32 bits; what is no whole number is rounded to 64 bits first. -/
def readSingle : Source → Option Number.Single
  | .number n =>
    n.value?.map fun
      | .int k => ⟨Number.single.round (k < 0) k.natAbs 1⟩
      | .real x => .ofDouble x
  | _ => none

/-- A name out of a list, alone or as the only field of an object, whose value is null. -/
def readName {α : Type} (name : α → String) (all : List α) : Source → Option α
  | .string units => do
    let text := String.ofList (← Json.text? units)
    all.find? fun a => name a = text
  | .object [(key, .null)] => do
    let text := String.ofList (← Json.text? key)
    all.find? fun a => name a = text
  | _ => none

/-- A text, or null for none. -/
def readOptionalText : Source → Option (Option String)
  | .null => some none
  | source => (readText source).map some

def readList {α : Type} (read : Source → Option α) : Source → Option (List α)
  | .array items => items.mapM read
  | _ => none

/-- A field, or its default where it is not given. -/
def readField {α : Type} (record : Record) (name : String) (read : Source → Option α) (other : α) :
    Option α :=
  match record.lookup name with
  | some source => read source
  | none => some other

def requireField {α : Type} (record : Record) (name : String) (read : Source → Option α) :
    Option α :=
  (record.lookup name).bind read

def readRule (source : Source) : Option Files.MappingRule := do
  let record ← source.record? ["from", "to"]
  return ⟨← requireField record "from" readText, ← requireField record "to" readText⟩

def readMappings (source : Source) : Option Files.Mappings := do
  let record ← source.record? ["series", "movies"]
  let rules (name : String) := readField record name (readList readRule) []
  return ⟨← rules "series", ← rules "movies"⟩

def serviceFields : List String :=
  ["url", "api_key", "model", "temperature", "max_concurrent_jobs", "reasoning",
    "submit_timeout_secs", "poll_timeout_secs", "sync_timeout_secs", "status_timeout_secs",
    "poll_interval_secs", "max_wait_secs", "retry_attempts", "retry_backoff_ms", "retry_jitter_ms"]

def word32 : Source → Option Nat := readNatural (Nat.pow 2 32)

def word64 : Source → Option Nat := readNatural (Nat.pow 2 64)

def readSettings (record : Record) : Option Service.Settings := do
  let d := defaultSettings
  return {
    apiKey := ← readField record "api_key" readText d.apiKey
    model := ← readField record "model" readText d.model
    temperature := ← readField record "temperature" readSingle d.temperature
    maxConcurrentJobs := ← readField record "max_concurrent_jobs" word32 d.maxConcurrentJobs
    reasoning := ← readField record "reasoning"
      (readName Service.Reasoning.name [.disabled, .low, .medium, .high]) d.reasoning }

def readService (source : Source) : Option ServiceSection := do
  let record ← source.record? serviceFields
  let d := ServiceSection.default
  let long (name : String) (other : Nat) := readField record name word64 other
  return {
    url := ← readField record "url" readText d.url
    settings := ← readSettings record
    submitTimeout := ← long "submit_timeout_secs" d.submitTimeout
    pollTimeout := ← long "poll_timeout_secs" d.pollTimeout
    syncTimeout := ← long "sync_timeout_secs" d.syncTimeout
    statusTimeout := ← long "status_timeout_secs" d.statusTimeout
    pollInterval := ← long "poll_interval_secs" d.pollInterval
    maxWait := ← long "max_wait_secs" d.maxWait
    retryAttempts := ← readField record "retry_attempts" word32 d.retryAttempts
    retryBackoffMilliseconds := ← long "retry_backoff_ms" d.retryBackoffMilliseconds
    retryJitterMilliseconds := ← long "retry_jitter_ms" d.retryJitterMilliseconds }

def readBatch (source : Source) : Option BatchSection := do
  let record ← source.record? ["dispatch", "queue_workers"]
  let d := BatchSection.default
  return {
    dispatch := ← readField record "dispatch" (readName Batch.Dispatch.name [.inline, .queue])
      d.dispatch
    workers := ← readField record "queue_workers" word64 d.workers }

def ofSource? (source : Source) : Option Config := do
  let record ← source.record? ["translator", "path_mappings", "batch", "database_path", "log_level"]
  let d := Config.default
  return {
    service := ← readField record "translator" readService d.service
    mappings := ← readField record "path_mappings" readMappings d.mappings
    batch := ← readField record "batch" readBatch d.batch
    databasePath := ← readField record "database_path" readOptionalText d.databasePath
    logLevel := ← readField record "log_level" (readName LogLevel.name LogLevel.all) d.logLevel }

inductive LoadError
  | unreadable (path : String)
  | unwritable (path : String)
deriving DecidableEq

def LoadError.message : LoadError → String
  | .unreadable path => "Failed to parse config file: " ++ Text.quoted path
  | .unwritable path => "Failed to write default config to file: " ++ Text.quoted path

def ofBytes? (content : List UInt8) : Option Config :=
  (Json.Source.ofBytes? content).bind ofSource?

def defaultContent : List UInt8 := Text.Utf8.encode Config.default.toJson.indented.toList

/-- Loads a file, and makes it first where there is none. -/
def load (t : Files.Tree) (path : String) : Except LoadError Config × Files.Tree :=
  if t.exists? path then
    match t.read path with
    | .ok content =>
      match ofBytes? content with
      | some config => (.ok config, t)
      | none => (.error (.unreadable path), t)
    | .error _ => (.error (.unreadable path), t)
  else
    match t.target path with
    | .ok place => (.ok .default, t.insert place (.file defaultContent))
    | .error _ => (.error (.unwritable path), t)

end Subtitling.Config
