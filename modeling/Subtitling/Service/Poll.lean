import Subtitling.Json.Printer
import Subtitling.Json.Record
import Subtitling.Number.Text
import Subtitling.Text.Pieces

/-!
What the service answers about a job: the id of a job it has just taken, and the state of one that
it has. Only the status is held to its type, all other parts are read as far as they make sense.
-/

namespace Subtitling.Service

/-- Arrays and objects nest this deep inside a record. -/
def partDepth : Nat := Json.maxDepth - 1

/-- The id of a job: a text that is not blank, trimmed, or a number. -/
def jobId? : Json → Option String
  | .string s => if Text.isBlankText s then none else some (Text.trimmed s)
  | .number n => some (Json.number n).compact
  | _ => none

structure Submitted where
  jobId : Option Json

def Submitted.id? (s : Submitted) : Option String := s.jobId.bind jobId?

def Submitted.fieldNames : List String := ["jobId"]

def Submitted.ofJson? (value : Json) : Option Submitted :=
  (Json.fieldsOf? fieldNames value).map fun fields => ⟨Json.part? fields "jobId"⟩

def Submitted.read? (body : List UInt8) : Option Submitted := do
  let record ← (← Json.Source.ofBytes? body).record? fieldNames
  return ⟨← record.value? partDepth "jobId"⟩

structure Poll where
  status : Option String
  progress : Option Json
  note : Option Json
  result : Option Json
  error : Option Json

namespace Poll

/-- A poll of its parts, of which the status has to be a text. -/
def ofParts? (status progress note result error : Option Json) : Option Poll :=
  match status with
  | none => some ⟨none, progress, note, result, error⟩
  | some (.string s) => some ⟨some s, progress, note, result, error⟩
  | some _ => none

def fieldNames : List String := ["status", "progress", "message", "result", "error"]

def ofJson? (value : Json) : Option Poll := do
  let part := Json.part? (← Json.fieldsOf? fieldNames value)
  ofParts? (part "status") (part "progress") (part "message") (part "result") (part "error")

def read? (body : List UInt8) : Option Poll := do
  let record ← (← Json.Source.ofBytes? body).record? fieldNames
  let part := record.value? partDepth
  ofParts? (← part "status") (← part "progress") (← part "message") (← part "result")
    (← part "error")

def dropPercentSigns (cs : List Char) : List Char := (cs.reverse.dropWhile (· = '%')).reverse

/-- A number, or a text of one with or without per cent signs. -/
def percentOf? : Json → Option Number.Double
  | .number n => some n.toDouble
  | .string s => Number.Double.parse? (Text.trim (dropPercentSigns (Text.trim s.toList)))
  | _ => none

/-- How much is done, in per cent, if that can be read. -/
def percent? (p : Poll) : Option Number.Double := p.progress.bind percentOf?

/-- A text as it is, anything else as compact JSON; null is as good as none. -/
def looseText? : Json → Option String
  | .null => none
  | .string s => some s
  | value => some value.compact

def noteText? (p : Poll) : Option String := p.note.bind looseText?

def errorText? (p : Poll) : Option String := p.error.bind looseText?

end Poll

end Subtitling.Service
