import Subtitling.Work.WorkUnit

/-!
A queue of units that are worked on side by side, in a bounded number of places. Every accepted
unit goes through the same stages: it takes a place, is worked on part by part, leaves the place,
adds its outcome, stops counting as pending, and wakes whoever waits for the queue to be idle.
The steps of different units may come in any order, also while several are worked on; draining
the queue takes the units one after the other.
-/

namespace Subtitling.Work

/-- What came of a unit: where the result is, or why there is none. -/
structure Outcome where
  name : String
  result : Except String String

inductive Stage
  | waiting
  /-- It has a place, and the work on it is so far. -/
  | working (part : WorkUnit.Part)
  /-- It was worked on and still has its place. -/
  | worked (outcome : Outcome)
  | released (outcome : Outcome)
  /-- Its outcome is among those of the queue. -/
  | recorded
  /-- It no longer counts as pending. -/
  | settled
  | finished

/-- Whether a unit has a place. -/
def Stage.holdsPlace : Stage → Bool
  | .working _ => true
  | .worked _ => true
  | _ => false

structure Accepted where
  workUnit : WorkUnit
  stage : Stage

inductive Waiter
  | away
  /-- Will be told of units that finish from now on, and has yet to look at the queue. -/
  | watching (notified : Bool)
  /-- Has seen pending units and waits to be told. -/
  | parked (notified : Bool)
  | returned
deriving DecidableEq

/-- The waiter when a unit tells that it is done. -/
def Waiter.notify : Waiter → Waiter
  | .watching _ => .watching true
  | .parked _ => .parked true
  | waiter => waiter

structure Queue where
  /-- How many units may be worked on at once. -/
  places : Nat
  units : List Accepted
  outcomes : List Outcome
  pending : Nat
  waiter : Waiter

namespace Queue

/-- The most places that a queue can have. -/
def maxPlaces : Nat := Nat.pow 2 61 - 1

/-- An empty queue, which has one place at least. -/
def make (workers : Nat) : Queue := ⟨max workers 1, [], [], 0, .away⟩

/-- Why a unit is refused once the caller has cancelled. -/
def shuttingDown : String := "queue is shutting down"

/-- Accepts a unit, unless the caller has cancelled. -/
def enqueue (q : Queue) (cancelled : Bool) (u : WorkUnit) : Except String Queue :=
  if cancelled then .error shuttingDown
  else .ok { q with units := q.units ++ [⟨u, .waiting⟩], pending := q.pending + 1 }

def taken (q : Queue) : Nat := q.units.countP fun a => a.stage.holdsPlace

def setStage (q : Queue) (i : Nat) (stage : Stage) : Queue :=
  { q with units := q.units.modify i fun a => { a with stage := stage } }

def outcomeOf (u : WorkUnit) (result : Except Error String) : Outcome :=
  ⟨u.name, result.mapError Error.message⟩

/-- The next step of one unit; there is none when it has finished or waits for a place in vain. -/
def step? (around : Surroundings) (i : Nat) (q : Queue) (w : World) : Option (Queue × World) :=
  match q.units[i]? with
  | none => none
  | some a =>
    match a.stage with
    | .waiting => if q.taken < q.places then some (q.setStage i (.working .begun), w) else none
    | .working part =>
      match a.workUnit.advance around part w with
      | (.inl next, w) => some (q.setStage i (.working next), w)
      | (.inr result, w) => some (q.setStage i (.worked (outcomeOf a.workUnit result)), w)
    | .worked outcome => some (q.setStage i (.released outcome), w)
    | .released outcome =>
      some ({ q.setStage i .recorded with outcomes := q.outcomes ++ [outcome] }, w)
    | .recorded => some ({ q.setStage i .settled with pending := q.pending - 1 }, w)
    | .settled => some ({ q.setStage i .finished with waiter := q.waiter.notify }, w)
    | .finished => none

/-- The next step of the waiter; there is none when it is parked and was not told, or is back. -/
def wait? (q : Queue) : Option Queue :=
  match q.waiter with
  | .away => some { q with waiter := .watching false }
  | .watching notified =>
    some { q with waiter := if q.pending = 0 then .returned else .parked notified }
  | .parked true => some { q with waiter := .watching false }
  | .parked false => none
  | .returned => none

/-- Up to `n` steps of one unit. -/
def stepMany (around : Surroundings) (i : Nat) : Nat → Queue × World → Queue × World
  | 0, state => state
  | n + 1, (q, w) =>
    match q.step? around i w with
    | some state => stepMany around i n state
    | none => (q, w)

/-- The most steps that a unit has to take. -/
def stepCount : Nat := 9

/-- Takes the units with these numbers through all their stages. -/
def runInOrder (around : Surroundings) (order : List Nat) (q : Queue) (w : World) : Queue × World :=
  order.foldl (fun state i => stepMany around i stepCount state) (q, w)

/-- Takes all units through all their stages, in the order in which they were accepted. -/
def drain (around : Surroundings) (q : Queue) (w : World) : Queue × World :=
  runInOrder around (List.range q.units.length) q w

end Queue

end Subtitling.Work
