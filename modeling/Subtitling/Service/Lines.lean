import Subtitling.Json.Printer
import Subtitling.Service.Retry
import Subtitling.Subtitle.Cue

/-!
Translated lines as the service sends them: a list of records, each with a position and a line. One
record that is not of this form makes the whole list unreadable.
-/

namespace Subtitling.Service

open Subtitle (Line)

def readLine? (record : Json) : Option Line := do
  let position ← (record.get? "position").bind Json.asWord?
  let text ← (record.get? "line").bind Json.asString?
  return ⟨position, text⟩

def readRecord (record : Json) : Except Error Line :=
  match readLine? record with
  | some line => .ok line
  | none => .error (.malformed ("invalid line record: " ++ record.compact))

def readRecords : List Json → Except Error (List Line)
  | [] => .ok []
  | record :: rest => do
    let line ← readRecord record
    let lines ← readRecords rest
    return line :: lines

def readLines : Json → Except Error (List Line)
  | .array records => readRecords records
  | value => .error (.malformed ("expected a list, got " ++ value.compact))

def lineRecord (line : Line) : Json :=
  .ofFields [("position", Json.ofInt line.position), ("line", .string line.text)]

def numberFrom (first : Nat) : List String → List Line
  | [] => []
  | text :: rest => ⟨first, text⟩ :: numberFrom (first + 1) rest

def numberLines (texts : List String) : List Line := numberFrom 0 texts

end Subtitling.Service
