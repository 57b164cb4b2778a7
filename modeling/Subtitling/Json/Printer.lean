import Subtitling.Json.Value
import Subtitling.Number.Shortest
import Subtitling.Text.Quoted

/-!
JSON written out, either compactly or with one item a line and two spaces for each level. Texts
keep every character but the quote, the backslash and the controls; a binary number is the shortest
decimal that reads back.
-/

namespace Subtitling.Json

/-- Numbers from `10^16` up and below `10^-5` have an exponent, which always carries a sign. -/
def numberLayout : Subtitling.Number.Layout := ⟨some (-4, 16), true, true, .toEven⟩

def escapeChar (c : Char) : List Char :=
  if c = '"' then ['\\', '"']
  else if c = '\\' then ['\\', '\\']
  else if c = '\n' then ['\\', 'n']
  else if c = '\r' then ['\\', 'r']
  else if c = '\t' then ['\\', 't']
  else if c = '\x08' then ['\\', 'b']
  else if c = '\x0c' then ['\\', 'f']
  else if c < ' ' then ['\\', 'u'] ++ Text.hexPadded 4 c.toNat
  else [c]

def stringChars (s : String) : List Char := '"' :: s.toList.flatMap escapeChar ++ ['"']

/-- Whole numbers are decimal, and a number without a finite value is null. -/
def numberChars : Json.Number → List Char
  | .int n => (toString n).toList
  | .real x =>
    if x.isFinite then (Subtitling.Number.double.write numberLayout x.bits).toList
    else "null".toList

mutual

def chars : Json → List Char
  | .null => "null".toList
  | .bool true => "true".toList
  | .bool false => "false".toList
  | .number n => numberChars n
  | .string s => stringChars s
  | .array items => '[' :: itemChars items ++ [']']
  | .object fields => '\x7b' :: fieldChars fields ++ ['\x7d']

def itemChars : List Json → List Char
  | [] => []
  | [item] => chars item
  | item :: rest => chars item ++ ',' :: itemChars rest

def fieldChars : List (String × Json) → List Char
  | [] => []
  | [(key, value)] => stringChars key ++ ':' :: chars value
  | (key, value) :: rest => stringChars key ++ ':' :: chars value ++ ',' :: fieldChars rest

end

def compact (value : Json) : String := String.ofList (chars value)

def newLine (level : Nat) : List Char := '\n' :: List.replicate (2 * level) ' '

mutual

/-- The form with one item a line, inside `level` arrays and objects. -/
def indentedChars (level : Nat) : Json → List Char
  | .array [] => ['[', ']']
  | .array items =>
    '[' :: indentedItems (level + 1) items ++ newLine level ++ [']']
  | .object [] => ['\x7b', '\x7d']
  | .object fields =>
    '\x7b' :: indentedFields (level + 1) fields ++ newLine level ++ ['\x7d']
  | .null => "null".toList
  | .bool true => "true".toList
  | .bool false => "false".toList
  | .number n => numberChars n
  | .string s => stringChars s

def indentedItems (level : Nat) : List Json → List Char
  | [] => []
  | [item] => newLine level ++ indentedChars level item
  | item :: rest => newLine level ++ indentedChars level item ++ ',' :: indentedItems level rest

def indentedFields (level : Nat) : List (String × Json) → List Char
  | [] => []
  | [(key, value)] => newLine level ++ stringChars key ++ [':', ' '] ++ indentedChars level value
  | (key, value) :: rest =>
    newLine level ++ stringChars key ++ [':', ' '] ++ indentedChars level value ++
      ',' :: indentedFields level rest

end

/-- The indented form of a value; the fields of an object are written in the order they have. -/
def indented (value : Json) : String := String.ofList (indentedChars 0 value)

end Subtitling.Json
