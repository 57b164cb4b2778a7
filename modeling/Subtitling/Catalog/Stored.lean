import Subtitling.Catalog.Literal
import Subtitling.Json.Syntax
import Subtitling.Source.Candidate

/-!
The catalog's column of subtitles. It holds a JSON array, or in older rows the same list as a
Python literal; both become one list of JSON values, and of those every element that names a
language and a path is a candidate. Elements that do not are passed over, and a column that cannot
be read has none.
-/

namespace Subtitling.Catalog

inductive Stored
  | empty
  | structured (items : List Json)
  | legacy (text : String)

/-- Tells the notation of a column; a null is as good as none. -/
def Stored.ofColumn (raw : Option String) : Stored :=
  match raw.map Text.trimmed with
  | none => .empty
  | some text =>
    if text.isEmpty then .empty
    else
      match Json.parse? text with
      | some (.array items) => .structured items
      | some .null => .empty
      | _ => .legacy text

def Stored.items : Stored → List Json
  | .empty => []
  | .structured items => items
  | .legacy text =>
    match Literal.read text.toList with
    | .ok (.array items) => items
    | _ => []

def isSet (value : Json) (key : String) : Bool := ((value.get? key).bind Json.asBool?).getD false

/-- The candidate of an element: a list of a tag, a path and more, or an object of them, in which
flags add to those of the tag. -/
def candidate? : Json → Option Source.Candidate
  | .array (.string tag :: .string path :: _) => Source.Candidate.ofTag? tag path
  | .object fields => do
    let item := Json.object fields
    let tag ← (item.get? "language").bind Json.asString?
    let path ← (item.get? "path").bind Json.asString?
    let c ← Source.Candidate.ofTag? tag path
    return { c with hi := c.hi || isSet item "hi", forced := c.forced || isSet item "forced" }
  | _ => none

def Stored.candidates (s : Stored) : List Source.Candidate := s.items.filterMap candidate?

def decodeColumn (raw : Option String) : List Source.Candidate := (Stored.ofColumn raw).candidates

end Subtitling.Catalog
