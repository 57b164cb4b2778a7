import Subtitling.Service.Lines
import Subtitling.Service.Poll
import Subtitling.Text.LowerCase

/-!
A job of the service as its submitter sees it. Polls and the end of patience move it on until it
has settled; from then on nothing changes it, and its outcome is that of the event that settled it.
-/

namespace Subtitling.Service

open Subtitle (Line)

inductive Status
  | queued
  | running
  | completed
  | failed
  | cancelled
  | timedOut
deriving DecidableEq

def Status.name : Status → String
  | .queued => "queued"
  | .running => "running"
  | .completed => "completed"
  | .failed => "failed"
  | .cancelled => "cancelled"
  | .timedOut => "timed_out"

def Status.isTerminal : Status → Bool
  | .queued => false
  | .running => false
  | _ => true

/-- A status as the service spells it; what it does not spell so counts as running. -/
def Status.ofReport (text : Option String) : Status :=
  match text.map fun s => Text.lower (Text.trimmed s) with
  | none => .running
  | some s =>
    if s = "queued" || s = "pending" then .queued
    else if s = "completed" then .completed
    else if s = "failed" then .failed
    else if s = "cancelled" || s = "canceled" then .cancelled
    else .running

inductive Delivery
  | lines (lines : List Line)
  /-- Something that is no list of lines, and what is wrong with it. -/
  | unreadable (error : String)
  | nothing
deriving DecidableEq

/-- Where a job stands, with all that belongs there. -/
inductive Phase
  | queued
  | running
  | completed (delivery : Delivery)
  | failed (reason : String)
  | cancelled
  | timedOut (seconds : Nat)
deriving DecidableEq

def Phase.status : Phase → Status
  | .queued => .queued
  | .running => .running
  | .completed _ => .completed
  | .failed _ => .failed
  | .cancelled => .cancelled
  | .timedOut _ => .timedOut

structure Job where
  id : String
  phase : Phase
  /-- At most a hundred. -/
  percent : Nat
  note : String
deriving DecidableEq

/-- What a result holds; null and an empty list are nothing. -/
def Delivery.ofResult : Option Json → Delivery
  | none => .nothing
  | some .null => .nothing
  | some value =>
    match readLines value with
    | .ok [] => .nothing
    | .ok found => .lines found
    | .error e => .unreadable e.message

def Poll.phase (p : Poll) : Phase :=
  match Status.ofReport p.status with
  | .queued => .queued
  | .completed => .completed (.ofResult p.result)
  | .failed => .failed (p.errorText?.getD "Unknown error")
  | .cancelled => .cancelled
  | _ => .running

/-- A share of a hundred as a whole number, a half rounded up; what is no finite number is none. -/
def wholePercent? (x : Number.Double) : Option Nat :=
  x.roundHalfAway.map fun n => (max 0 (min n 100)).toNat

namespace Job

def new (id : String) : Job := ⟨id, .queued, 0, ""⟩

def status (job : Job) : Status := job.phase.status

def isTerminal (job : Job) : Bool := job.status.isTerminal

/-- The job after a poll, unless it has settled. -/
def moved? (job : Job) (poll : Poll) : Option Job :=
  if job.isTerminal then none
  else
    some { job with
      phase := poll.phase
      percent := (poll.percent?.bind wholePercent?).getD job.percent
      note := poll.noteText?.getD job.note }

def apply (job : Job) (poll : Poll) : Job := (job.moved? poll).getD job

def expire (job : Job) (seconds : Nat) : Job :=
  if job.isTerminal then job else { job with phase := .timedOut seconds }

def result? (job : Job) : Option (List Line) :=
  match job.phase with
  | .completed (.lines lines) => some lines
  | _ => none

def error? (job : Job) : Option String :=
  match job.phase with
  | .completed (.unreadable error) => some error
  | .failed reason => some reason
  | _ => none

/-- How the job ended, once it has. -/
def outcome? (job : Job) : Option (Except Error (List Line)) :=
  match job.phase with
  | .queued => none
  | .running => none
  | .completed (.lines lines) => some (.ok lines)
  | .completed (.unreadable error) => some (.error (.malformed error))
  | .completed .nothing => some (.error (.jobFailed "Job completed but no result returned"))
  | .failed reason => some (.error (.jobFailed reason))
  | .cancelled => some (.error .jobCancelled)
  | .timedOut seconds => some (.error (.timedOut seconds))

end Job

inductive Job.Event
  | polled (poll : Poll)
  | expired (seconds : Nat)

def Job.after (job : Job) : Job.Event → Job
  | .polled poll => job.apply poll
  | .expired seconds => job.expire seconds

def Job.afterAll (job : Job) (events : List Job.Event) : Job := events.foldl Job.after job

end Subtitling.Service
