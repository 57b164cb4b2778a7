import Subtitling.Service.Client

/-!
Backends that need no service, for trying out what is built on one. Each answers the same way every
time.
-/

namespace Subtitling.Service

open Subtitle (Line)

inductive Rehearsal
  /-- Every line. -/
  | working
  /-- The lines at even positions. -/
  | partialLines
  | failing (e : Error)
  /-- No line. -/
  | empty
  /-- Every line after a while, unless the caller cancels. -/
  | slow (delay : Duration)
deriving DecidableEq

namespace Rehearsal

def marked (target : String) (line : Line) : Line :=
  { line with text := "[" ++ target ++ "] " ++ line.text }

/-- The backend whose answers are made of the texts by `render`. -/
def backendWith (render : Task → Line → Line) (r : Rehearsal) : Backend := fun task s =>
  let lines := numberLines task.texts
  match r with
  | .working => (.ok (lines.map (render task)), s)
  | .partialLines => (.ok ((lines.filter fun line => line.position % 2 = 0).map (render task)), s)
  | .failing e => (.error e, s)
  | .empty => (.ok [], s)
  | .slow delay =>
    if s.cancelled then (.error .cancelled, s) else (.ok (lines.map (render task)), s.wait delay)

def backend : Rehearsal → Backend := backendWith fun task => marked task.metadata.target

end Rehearsal

def Backend.fixed (lines : List Line) : Backend := fun _ s => (.ok lines, s)

end Subtitling.Service
