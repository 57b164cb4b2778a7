import Subtitling.Number.Binary

/-!
JSON values. A whole number that fits 64 bits, signed or unsigned, is kept as it is; every other
number is a binary one. The fields of an object are in rising order of their keys and no key
occurs twice: `Json.ofFields` builds an object that way from any list, the last of equal keys
winning.
-/

namespace Subtitling

inductive Json.Number
  | int (n : Int)
  | real (x : Number.Double)
deriving DecidableEq

inductive Json
  | null
  | bool (b : Bool)
  | number (n : Json.Number)
  | string (s : String)
  | array (items : List Json)
  | object (fields : List (String × Json))

namespace Json

/-- Puts a field at its place, in place of one with the same key. -/
def insertField {α : Type} (key : String) (value : α) : List (String × α) → List (String × α)
  | [] => [(key, value)]
  | (k, v) :: rest =>
    if key = k then (key, value) :: rest
    else if key < k then (key, value) :: (k, v) :: rest
    else (k, v) :: insertField key value rest

/-- Sorts fields by key; of equal keys the last stays. -/
def sortFields {α : Type} (fields : List (String × α)) : List (String × α) :=
  fields.foldl (fun sorted (key, value) => insertField key value sorted) []

def ofFields (fields : List (String × Json)) : Json := .object (sortFields fields)

def ofInt (n : Int) : Json := .number (.int n)

/-- The value of a field, if this is an object that has it. -/
def get? (value : Json) (key : String) : Option Json :=
  match value with
  | .object fields => fields.lookup key
  | _ => none

def isNull : Json → Bool
  | .null => true
  | _ => false

def asString? : Json → Option String
  | .string s => some s
  | _ => none

def asBool? : Json → Option Bool
  | .bool b => some b
  | _ => none

def asWord? : Json → Option Int
  | .number (.int n) => if -(Nat.pow 2 63 : Int) ≤ n ∧ n < Nat.pow 2 63 then some n else none
  | _ => none

def Number.toDouble : Json.Number → Subtitling.Number.Double
  | .int n => .ofInt n
  | .real x => x

end Json

end Subtitling
