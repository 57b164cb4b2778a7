import Subtitling.App.Arguments
import Subtitling.App.Run
import Subtitling.Catalog.Database
import Subtitling.Config.Basic
import Subtitling.Config.Reading
import Subtitling.Files.Tree
import Subtitling.Json.Syntax
import Subtitling.Service.Client
import Subtitling.Service.Retry
import Subtitling.Text.Quoted
import Subtitling.Text.Utf8
import Subtitling.Work.WorkUnit

/-!
A run of the program: the line is read, then the configuration, the catalog is opened, and the
command is carried out. What a command finds is printed as indented JSON; a command that fails
prints nothing.

The file of a batch holds a list of items, or an object with such a list under `items`; a batch
without items is refused. The other commands are questions to the service.
-/

namespace Subtitling.App

inductive Error
  | file (text : String)
  | config (text : String)
  | database (text : String)
  | service (e : Service.Error)
  | work (e : Work.Error)
  | unknown (text : String)
deriving DecidableEq

def Error.message : Error → String
  | .file text => "File error: " ++ text
  | .config text => "Configuration error: " ++ text
  | .database text => "Database error: " ++ text
  | .service e => "Service error: " ++ e.message
  | .work e => "Translation error: " ++ e.message
  | .unknown text => "Unknown error: " ++ text

def itemsOf? : Json → Option (List Json)
  | .array items => some items
  | .object fields =>
    match (Json.object fields).get? "items" with
    | some (.array items) => some items
    | _ => none
  | _ => none

def readText (t : Files.Tree) (path : String) : Except Error (List Char) :=
  let failure (reason : String) : Error :=
    .file ("Failed to read " ++ Text.quoted path ++ ": " ++ reason)
  match t.read path with
  | .error e => .error (failure e.message)
  | .ok content =>
    match Text.Utf8.decode? content with
    | some text => .ok text
    | none => .error (failure "stream did not contain valid UTF-8")

def readItems (t : Files.Tree) (path : String) : Except Error (List Json) := do
  let text ← readText t path
  match Json.read? text with
  | none =>
    .error (.config ("Invalid batch file " ++ Text.quoted path ++ ": " ++ Service.jsonDetail))
  | some value =>
    match itemsOf? value with
    | none => .error (.config "No items provided")
    | some [] => .error (.config "Empty items list")
    | some items => .ok items

inductive Query
  | status
  | jobs
  | job (id : String)
  | cancelJob (id : String)
  | models
  | serviceConfig
deriving DecidableEq

def Query.ask (client : Service.Client) (link : Service.Link) (s : Service.Session) :
    Query → Except Error Json × Service.Session
  | .status => answered (client.status link s)
  | .jobs => answered (client.listJobs link s)
  | .job id => answered (client.getJob link id s)
  | .cancelJob id => answered (client.cancelJob link id s)
  | .models => answered (client.models link s)
  | .serviceConfig => answered (client.serviceConfig link s)
where
  answered (r : Except Service.Error Json × Service.Session) :
    Except Error Json × Service.Session :=
    (r.1.mapError .service, r.2)

open Work (World Surroundings)

/-- What a run prints, and the code it ends with. -/
structure Output where
  code : Nat
  text : String
deriving DecidableEq

namespace Output

def success (text : String) : Output := ⟨0, text⟩

def failure : Output := ⟨1, ""⟩

def wrongUsage : Output := ⟨2, ""⟩

def aborted : Output := ⟨101, ""⟩

def ofJson (value : Json) : Output := success (value.indented ++ "\n")

end Output

def versionText : String := "subrelay 0.1.0\n"

/-- The help text, which says how a line is written. -/
def helpText : String :=
  "Relay subtitle translations to an AI translation service\n\n" ++
  "Usage: subrelay [OPTIONS] <COMMAND>\n"

def Refusal.output : Refusal → Output
  | .wrongUsage => .wrongUsage
  | .help => .success helpText
  | .version => .success versionText

/-- What a batch came to, as it is printed. -/
def resultJson (r : Batch.Result) : Json :=
  .object [
    ("queued", Json.ofInt r.queued),
    ("skipped", Json.ofInt r.skipped),
    ("errors", .array (r.errors.map .string))]

/-- Opens the catalog that a configuration names. Where none is named, the one at hand is used. -/
def openCatalog (c : Config) (w : World) : Except Error Unit × World :=
  match c.databaseFile? with
  | none => (.ok (), w)
  | some path =>
    match Catalog.openDatabase w.files path with
    | (.error e, files) => (.error (.database e.message), { w with files := files })
    | (.ok connection, files) => (.ok (), { w with files := files, store := connection.store })

/-- Whether a batch is to go through a queue with more places than one can have. -/
def asksTooManyPlaces (c : Config) : Bool :=
  c.batch.dispatch = .queue && Work.Queue.maxPlaces < c.batch.workers

def translateItems (c : Config) (around : Surroundings) (path : String) (w : World) :
    Output × World :=
  match readItems w.files path with
  | .error _ => (.failure, w)
  | .ok items =>
    if asksTooManyPlaces c then (.aborted, w)
    else
      let (result, w) := runBatch c around items w
      (.ofJson (resultJson result), w)

def answerQuery (c : Config) (link : Service.Link) (query : Query) (w : World) : Output × World :=
  let (result, session) := query.ask c.client link w.session
  let output :=
    match result with
    | .ok value => Output.ofJson value
    | .error _ => .failure
  (output, { w with session := session })

structure Environment where
  link : Service.Link
  /-- The time that entries of the history are given. -/
  now : String

def Environment.surroundings (env : Environment) (client : Service.Client) : Surroundings where
  backend := client.translate env.link
  recordingFault _ := none
  lookupFault := none
  diskFaults := .none
  now := env.now

def perform (c : Config) (env : Environment) (w : World) : Command → Output × World
  | .batch items => translateItems c (env.surroundings c.client) items w
  | .status => answerQuery c env.link .status w
  | .jobs => answerQuery c env.link .jobs w
  | .job id => answerQuery c env.link (.job id) w
  | .cancel id => answerQuery c env.link (.cancelJob id) w
  | .models => answerQuery c env.link .models w
  | .serviceConfig => answerQuery c env.link .serviceConfig w
  | .completions _ => (.success "", w)

def runConfigured (c : Config) (env : Environment) (command : Command) (w : World) :
    Output × World :=
  match c.check with
  | .error _ => (.failure, w)
  | .ok () =>
    match openCatalog c w with
    | (.error _, w) => (.failure, w)
    | (.ok (), w) => perform c env w command

/-- Runs the program. Completions need no configuration. -/
def run (env : Environment) (arguments : List String) (w : World) : Output × World :=
  match Invocation.ofArguments arguments with
  | .error refusal => (refusal.output, w)
  | .ok ⟨.completions _, _⟩ => (.success "", w)
  | .ok invocation =>
    match Config.load w.files invocation.configPath with
    | (.error _, files) => (.failure, { w with files := files })
    | (.ok config, files) => runConfigured config env invocation.command { w with files := files }

end Subtitling.App
