import Subtitling.Json.Value
import Subtitling.Service.Retry
import Subtitling.Web.Address

/-!
Talking to the service. A session is all that has happened so far on this side: the requests that
were sent, the time that has passed, whether the caller has cancelled, and what users were shown. A
link is all that others decide: how each request ends and when, how long a pause really takes, and
at which moments the caller cancels.

What users see while work goes on has an entry of its own under an id, which is shown, updated and
taken away again; messages stand apart from the entries.
-/

namespace Subtitling.Progress

inductive Event
  /-- An entry appears or changes. -/
  | shown (id header name : String) (value count : Nat)
  /-- An entry goes away; one that is not there may be hidden too. -/
  | hidden (id : String)
  | message (text : String)
deriving DecidableEq

def viewAfter (view : List String) : Event → List String
  | .shown id .. => if view.contains id then view else view ++ [id]
  | .hidden id => view.filter (· ≠ id)
  | .message _ => view

/-- The entries in view after some events, each id once. -/
def inView (events : List Event) : List String := events.foldl viewAfter []

def messages (events : List Event) : List String :=
  events.filterMap fun
    | .message text => some text
    | _ => none

end Subtitling.Progress

namespace Subtitling.Service

inductive Method
  | get
  | post
  | delete
deriving DecidableEq

def Method.name : Method → String
  | .get => "GET"
  | .post => "POST"
  | .delete => "DELETE"

structure Call where
  method : Method
  address : Web.Address
  body : Option Json

structure Reply where
  status : Nat
  body : List UInt8
deriving DecidableEq

def Reply.isSuccess (r : Reply) : Bool := 200 ≤ r.status && r.status < 300

inductive Answer
  | reply (r : Reply)
  /-- It cannot be sent at all, which shows before any time is up. -/
  | unsendable
  /-- It is not delivered, or the connection is closed. -/
  | lost
  /-- Nothing ever comes. -/
  | silence

/-- How a request ends, and what happens until then. -/
structure Response where
  answer : Answer
  /-- The time that passes. -/
  elapsed : Duration
  /-- Whether the caller cancels meanwhile. -/
  cancels : Bool

/-- What others decide. The requests sent before are known to all of it. -/
structure Link where
  respond : List Call → Call → Response
  /-- How a request that was lost or late is described. -/
  describe : Call → String
  /-- How long it takes until a timer goes off that was set to some time. -/
  pauseTime : List Call → Duration → Duration
  /-- Whether the caller cancels in the pause that starts at some time. -/
  cancelsInPause : List Call → Duration → Bool
  /-- Whether the caller cancels just when a wait looks at the time. -/
  cancelsAtLook : List Call → Duration → Bool
  /-- Whether the caller cancels when an entry is shown, told how many times one was shown. -/
  cancelsAtUpdate : Nat → Bool
  /-- What chance adds to the pause before a retry. -/
  jitter : Nat → Duration

/-- A link over which every request ends in the same way at once, and whose timers are exact. -/
def Link.constant (answer : Answer) (describe : Call → String) : Link where
  respond _ _ := ⟨answer, .ofSeconds 0, false⟩
  describe := describe
  pauseTime _ d := d
  cancelsInPause _ _ := false
  cancelsAtLook _ _ := false
  cancelsAtUpdate _ := false
  jitter _ := .ofSeconds 0

structure Session where
  calls : List Call
  clock : Duration
  cancelled : Bool
  events : List Progress.Event

namespace Session

def start (cancelled : Bool) : Session := ⟨[], .ofSeconds 0, cancelled, []⟩

def wait (s : Session) (d : Duration) : Session :=
  { s with clock := ⟨s.clock.nanoseconds + d.nanoseconds⟩ }

def cancelIf (s : Session) (condition : Bool) : Session :=
  { s with cancelled := s.cancelled || condition }

def record (s : Session) (call : Call) : Session := { s with calls := s.calls ++ [call] }

def updates (s : Session) : Nat :=
  s.events.countP fun
    | .shown .. => true
    | _ => false

def notify (s : Session) (event : Progress.Event) : Session :=
  { s with events := s.events ++ [event] }

/-- Shows an entry, at which the caller may cancel. -/
def showEntry (s : Session) (link : Link) (id header name : String) (value count : Nat) : Session :=
  let shown := s.notify (.shown id header name value count)
  shown.cancelIf (link.cancelsAtUpdate shown.updates)

def hideEntry (s : Session) (id : String) : Session := s.notify (.hidden id)

def message (s : Session) (text : String) : Session := s.notify (.message text)

/-- The failure of a request that was lost. -/
def lostError (link : Link) (call : Call) : Error := .unavailable (link.describe call)

/-- The failure of a request that was not answered in time. -/
def lateError (link : Link) (call : Call) : Error :=
  .unavailable ("request timed out: " ++ link.describe call)

/-- How a request ends for a sender who waits no longer than `timeout`. -/
def outcome (link : Link) (timeout : Duration) (call : Call) (r : Response) : Except Error Reply :=
  let isLate : Bool := timeout.nanoseconds ≤ r.elapsed.nanoseconds
  match r.answer with
  | .reply reply => if isLate then .error (lateError link call) else .ok reply
  | .unsendable => .error (lostError link call)
  | .lost => .error (if isLate then lateError link call else lostError link call)
  | .silence => .error (lateError link call)

/-- The time until a request has ended. Silence lasts until the timer of the sender goes off. -/
def timeSpent (link : Link) (sent : List Call) (timeout : Duration) (r : Response) : Duration :=
  match r.answer with
  | .silence => ⟨max (link.pauseTime sent timeout).nanoseconds r.elapsed.nanoseconds⟩
  | _ => r.elapsed

/-- Sends a request and waits for its end, even if the caller cancels. -/
def send (s : Session) (link : Link) (timeout : Duration) (call : Call) :
    Except Error Reply × Session :=
  let r := link.respond s.calls call
  (outcome link timeout call r,
    ((s.record call).wait (timeSpent link s.calls timeout r)).cancelIf r.cancels)

/-- Sends a request and waits for its end or until the caller cancels, which gives no outcome. -/
def sendUnlessCancelled (s : Session) (link : Link) (timeout : Duration) (call : Call) :
    Option (Except Error Reply) × Session :=
  let r := link.respond s.calls call
  if r.cancels then (none, ((s.record call).wait r.elapsed).cancelIf true)
  else
    let (result, s) := s.send link timeout call
    (some result, s)

/-- Pauses, unless the caller cancels meanwhile. -/
def pause (s : Session) (link : Link) (d : Duration) : Session :=
  if link.cancelsInPause s.calls s.clock then s.cancelIf true else s.wait (link.pauseTime s.calls d)

/-- Looks up before going on, when the caller may have cancelled. -/
def look (s : Session) (link : Link) : Session := s.cancelIf (link.cancelsAtLook s.calls s.clock)

end Session

end Subtitling.Service
