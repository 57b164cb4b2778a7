import Subtitling.Json.Syntax

/-!
Records in JSON texts. A record is an object whose known fields may stand in any order, each at most
once, or an array of the fields' values in their fixed order, cut short anywhere. Fields that are
not known are passed over, whatever their value.
-/

namespace Subtitling.Json

abbrev Record := List (String × Source)

/-- Keys as texts; half of a surrogate pair makes the whole record unreadable. -/
def keysAsText : List (List Nat × Source) → Option Record
  | [] => some []
  | (key, value) :: rest => do
    let key ← text? key
    let fields ← keysAsText rest
    return (String.ofList key, value) :: fields

def hasRepeat : List String → Bool
  | [] => false
  | name :: rest => rest.contains name || hasRepeat rest

def Source.record? (names : List String) : Source → Option Record
  | .object fields => do
    let known := (← keysAsText fields).filter fun (key, _) => names.contains key
    if hasRepeat (known.map (·.1)) then none else some known
  | .array items => if items.length ≤ names.length then some (names.zip items) else none
  | _ => none

/-- The fields of a record whose fields have these names. -/
def fieldsOf? (names : List String) : Json → Option (List (String × Json))
  | .object fields => some fields
  | .array items => if items.length ≤ names.length then some (names.zip items) else none
  | _ => none

/-- The value under a name, if it is there and not null. -/
def part? (fields : List (String × Json)) (name : String) : Option Json :=
  (fields.lookup name).filter fun value => !value.isNull

/-- The value of a field inside a record; null is as good as none. -/
def Record.value? (record : Record) (depth : Nat) (name : String) : Option (Option Json) :=
  match record.lookup name with
  | none => some none
  | some source => (source.valueWithin? depth).map fun value => if value.isNull then none else value

end Subtitling.Json
