import Subtitling.Encoding.Sniff
import Subtitling.Service.Job
import Subtitling.Service.Payload
import Subtitling.Service.Session

/-!
The client of the service. Lines are submitted as a job, which is polled until it has settled, the
caller cancels or patience ends. Where the service takes no jobs the lines are translated in one
request instead, which is retried. Either way is gone to its end: once a job is submitted, or the
one request is sent, the other way is closed.
-/

namespace Subtitling.Service

open Subtitle (Line)

structure Timeouts where
  submit : Duration
  poll : Duration
  sync : Duration
  status : Duration
deriving DecidableEq

def Timeouts.standard : Timeouts := ⟨.ofSeconds 30, .ofSeconds 10, .ofSeconds 1800, .ofSeconds 10⟩

structure Client where
  baseUrl : String
  timeouts : Timeouts
  /-- The pause between two polls. -/
  interval : Duration
  /-- How long a job is waited for. -/
  maxWait : Duration
  retry : RetryPolicy
deriving DecidableEq

/-- Lines to be translated, and the id under which progress is shown. -/
structure Task where
  texts : List String
  metadata : Metadata
  settings : Settings
  progressId : String
deriving DecidableEq

abbrev Backend := Task → Session → Except Error (List Line) × Session

/-- A base address without blanks around it and without slashes at its end. -/
def trimBase (url : String) : String :=
  String.ofList ((Text.trim url.toList).reverse.dropWhile (· = '/')).reverse

/-- Details that only the transport or the JSON reader could word are given by placeholders. -/
def urlDetail : String := "<url>"

def decodeDetail : String := "<decode>"

def jsonDetail : String := "<json>"

namespace Client

/-- A client of the service at an address, with the usual patience. -/
def standard (url : String) : Client :=
  ⟨trimBase url, .standard, .ofSeconds 2, .ofSeconds 1800, .standard⟩

def submitPath : String := "/api/v1/jobs/translate/content"

def syncPath : String := "/api/v1/translate/content"

def jobsPath : String := "/api/v1/jobs"

def jobPath (id : String) : String := jobsPath ++ "/" ++ id

def progressHeader : String := "Translating subtitles with AI..."

def address (c : Client) (path : String) : Except Error Web.Address :=
  if c.baseUrl.isEmpty then .error (.unavailable "Translation service URL not configured")
  else
    match (Web.Address.parse? (c.baseUrl ++ path)).map Web.Address.withoutCredentials with
    | some a => if a.isReachable then .ok a else .error (.unavailable urlDetail)
    | none => .error (.unavailable urlDetail)

/-- Sends a request; without an address nothing is sent. -/
def request (c : Client) (link : Link) (timeout : Duration) (method : Method) (path : String)
    (body : Option Json) (s : Session) : Except Error Reply × Session :=
  match c.address path with
  | .error e => (.error e, s)
  | .ok a => s.send link timeout ⟨method, a, body⟩

/-- Sends a request that the caller may cut short. -/
def requestUnlessCancelled (c : Client) (link : Link) (timeout : Duration) (method : Method)
    (path : String) (body : Option Json) (s : Session) : Option (Except Error Reply) × Session :=
  match c.address path with
  | .error e => (some (.error e), s)
  | .ok a => s.sendUnlessCancelled link timeout ⟨method, a, body⟩

/-- The text of a body, in the encoding of its byte-order mark or in UTF-8. -/
def bodyText (body : List UInt8) : List Char :=
  match Encoding.splitMark body with
  | some (encoding, rest) => encoding.read rest
  | none => Text.Utf8.decode body

/-- What a reply to an inspection holds; a blank body holds null. -/
def readInspection (reply : Reply) : Except Error Json :=
  let text := bodyText reply.body
  if !reply.isSuccess then .error (.refused reply.status (String.ofList text))
  else if (Text.trim text).isEmpty then .ok .null
  else
    match Json.read? text with
    | some value => .ok value
    | none => .error (.malformed jsonDetail)

def inspect (c : Client) (link : Link) (method : Method) (path : String) (s : Session) :
    Except Error Json × Session :=
  match c.request link c.timeouts.status method path none s with
  | (.error e, s) => (.error e, s)
  | (.ok reply, s) => (readInspection reply, s)

def missingJob : Error → Error
  | .refused 404 _ => .refused 404 "Job not found"
  | e => e

def inspectJob (c : Client) (link : Link) (method : Method) (id : String) (s : Session) :
    Except Error Json × Session :=
  let (result, s) := c.inspect link method (jobPath id) s
  (result.mapError missingJob, s)

def status (c : Client) (link : Link) : Session → Except Error Json × Session :=
  c.inspect link .get "/api/v1/status"

def listJobs (c : Client) (link : Link) : Session → Except Error Json × Session :=
  c.inspect link .get jobsPath

def getJob (c : Client) (link : Link) (id : String) : Session → Except Error Json × Session :=
  c.inspectJob link .get id

def cancelJob (c : Client) (link : Link) (id : String) : Session → Except Error Json × Session :=
  c.inspectJob link .delete id

def models (c : Client) (link : Link) : Session → Except Error Json × Session :=
  c.inspect link .get "/api/v1/models"

def serviceConfig (c : Client) (link : Link) : Session → Except Error Json × Session :=
  c.inspect link .get "/api/v1/config"

def readPoll (reply : Reply) : Except Error Poll :=
  if reply.status ≠ 200 then .error (.refused reply.status "Error getting job status")
  else
    match Poll.read? reply.body with
    | some poll => .ok poll
    | none => .error (.malformed decodeDetail)

/-- Asks for a job once; there is no outcome when the caller cancels meanwhile. -/
def pollOnce (c : Client) (link : Link) (id : String) (s : Session) :
    Option (Except Error Poll) × Session :=
  match c.requestUnlessCancelled link c.timeouts.poll .get (jobPath id) none s with
  | (none, s) => (none, s)
  | (some (.error e), s) => (some (.error e), s)
  | (some (.ok reply), s) => (some (readPoll reply), s)

/-- Stops waiting and asks the service to drop the job; whether it does is of no concern. -/
def abandon (c : Client) (link : Link) (id progressId : String) (s : Session) :
    Except Error (List Line) × Session :=
  (.error .cancelled, (c.cancelJob link id (s.hideEntry progressId)).2)

def showJob (link : Link) (progressId : String) (job : Job) (s : Session) : Session :=
  s.showEntry link progressId progressHeader job.note job.percent 100

/-- Takes the entry of a settled job away; a failure is told. -/
def report (progressId : String) (outcome : Except Error (List Line)) (s : Session) :
    Except Error (List Line) × Session :=
  let s := s.hideEntry progressId
  match outcome with
  | .error (.jobFailed reason) => (outcome, s.message ("Translation failed: " ++ reason))
  | _ => (outcome, s)

def timeOut (c : Client) (progressId : String) (s : Session) : Except Error (List Line) × Session :=
  let seconds := c.maxWait.seconds
  (.error (.timedOut seconds), (s.hideEntry progressId).message
    ("Translation timed out after " ++ toString (seconds / 60) ++ " minutes"))

def isOver (c : Client) (started : Duration) (s : Session) : Bool :=
  c.maxWait.nanoseconds ≤ s.clock.nanoseconds - started.nanoseconds

inductive Turn
  /-- There is another turn. -/
  | again (job : Job) (s : Session)
  | over (ending : Except Error (List Line) × Session)

def carryOn (c : Client) (link : Link) (progressId : String) (job : Job) (s : Session) : Turn :=
  let s := if s.cancelled then s else s.pause link c.interval
  if s.cancelled then .over (c.abandon link job.id progressId s) else .again job s

/-- What a turn makes of the answer to its poll. A poll that failed is as good as none. -/
def takeAnswer (c : Client) (link : Link) (progressId : String) (job : Job) :
    Option (Except Error Poll) × Session → Turn
  | (none, s) => .over (c.abandon link job.id progressId s)
  | (some (.error _), s) => c.carryOn link progressId job s
  | (some (.ok poll), s) =>
    let job := job.apply poll
    let s := showJob link progressId job s
    match job.outcome? with
    | some outcome => .over (report progressId outcome s)
    | none => c.carryOn link progressId job s

/-- One turn of a wait that began at `started`: patience may have ended and the caller may have
cancelled, else the job is asked for once. -/
def turn (c : Client) (link : Link) (progressId : String) (started : Duration) (job : Job)
    (s : Session) : Turn :=
  let s := s.look link
  if c.isOver started s then .over (c.timeOut progressId s)
  else if s.cancelled then .over (c.abandon link job.id progressId s)
  else c.takeAnswer link progressId job (c.pollOnce link job.id s)

/-- Takes at most `fuel` turns. -/
def awaitFrom (c : Client) (link : Link) (progressId : String) (started : Duration) :
    Nat → Job → Session → Except Error (List Line) × Session
  | 0, _, s => c.timeOut progressId s
  | fuel + 1, job, s =>
    match c.turn link progressId started job s with
    | .again job s => c.awaitFrom link progressId started fuel job s
    | .over ending => ending

/-- Waits for a job that was just submitted. Where pauses take any time at all, patience ends before
the turns run out. -/
def awaitJob (c : Client) (link : Link) (progressId : String) (job : Job) (s : Session) :
    Except Error (List Line) × Session :=
  c.awaitFrom link progressId s.clock (c.maxWait.nanoseconds + 1) job s

def readSync (reply : Reply) : Except Error (List Line) :=
  if reply.status = 200 then
    match (Text.Utf8.decode? reply.body).bind Json.read? with
    | some value => readLines value
    | none => .error (.malformed decodeDetail)
  else if reply.status = 429 then .error (.rateLimited (String.ofList (bodyText reply.body)))
  else if 500 ≤ reply.status && reply.status < 600 then .error (.serverFault reply.status)
  else .error (.refused reply.status (String.ofList (bodyText reply.body)))

/-- One attempt; none is made once the caller has cancelled. -/
def attemptSync (c : Client) (link : Link) (payload : Json) (s : Session) :
    Except Error (List Line) × Session :=
  if s.cancelled then (.error .cancelled, s)
  else
    match c.requestUnlessCancelled link c.timeouts.sync .post syncPath (some payload) s with
    | (none, s) => (.error .cancelled, s)
    | (some (.error e), s) => (.error e, s)
    | (some (.ok reply), s) => (readSync reply, s)

def translateSync (c : Client) (link : Link) (payload : Json) (s : Session) :
    Except Error (List Line) × Session :=
  c.retry.run (fun n s => s.pause link (c.retry.delay (link.jitter n) n))
    (c.attemptSync link payload) s

def readSubmitted (reply : Reply) : Except Error String :=
  match Submitted.read? reply.body with
  | none => .error (.malformed decodeDetail)
  | some submitted =>
    match submitted.id? with
    | some id => .ok id
    | none => .error .missingJobId

def translate (c : Client) (link : Link) : Backend := fun task s =>
  let payload := (Payload.make task.texts task.metadata task.settings).toJson
  match c.request link c.timeouts.submit .post submitPath (some payload) s with
  | (.error e, s) => (.error e, s)
  | (.ok reply, s) =>
    if reply.status = 200 then
      match readSubmitted reply with
      | .error e => (.error e, s)
      | .ok id => c.awaitJob link task.progressId (Job.new id) s
    else c.translateSync link payload s

end Client

end Subtitling.Service
