import Subtitling.Json.Printer
import Subtitling.Number.Text
import Subtitling.Text.Pieces
import Subtitling.Text.Quoted

/-!
Python literals, the notation of the catalog's older rows: lists, tuples, dicts, strings, numbers,
`None`, `True` and `False`. A literal is read into a JSON value; tuples become arrays and a key that
is not a string is the compact form of its value. Brackets nest at most 64 deep, and offsets in
messages count characters.
-/

namespace Subtitling.Catalog.Literal

inductive Failure
  | unexpectedCharacter (c : Char) (offset : Nat)
  | unexpectedEnd
  | tooDeep (offset : Nat)
  | expectedSeparator (close : Char) (found : Option Char)
  | expectedColon (key : String)
  | unterminatedString
  | unterminatedEscape
  | truncatedEscape
  | invalidEscape (digits : String)
  | invalidCodePoint (n : Nat)
  | invalidNumber (text : String)
  | unknownWord (word : String)
  | trailing (offset : Nat)
deriving DecidableEq

def maxDepth : Nat := 64

/-- A character that may be missing, as messages show it. -/
def foundText : Option Char → String
  | some c => "Some(" ++ Text.quotedChar c ++ ")"
  | none => "None"

def Failure.message : Failure → String
  | .unexpectedCharacter c offset =>
    "Unexpected character '" ++ c.toString ++ "' at offset " ++ toString offset
  | .unexpectedEnd => "Unexpected end of input"
  | .tooDeep offset =>
    "Nesting deeper than " ++ toString maxDepth ++ " at offset " ++ toString offset
  | .expectedSeparator close found =>
    "Expected ',' or '" ++ close.toString ++ "', found " ++ foundText found
  | .expectedColon key => "Expected ':' after dict key '" ++ key ++ "'"
  | .unterminatedString => "Unterminated string"
  | .unterminatedEscape => "Unterminated escape"
  | .truncatedEscape => "Truncated escape sequence"
  | .invalidEscape digits => "Invalid escape sequence '" ++ digits ++ "'"
  | .invalidCodePoint n => "Invalid code point " ++ String.ofList (Text.hexDigits n)
  | .invalidNumber text => "Invalid number '" ++ text ++ "'"
  | .unknownWord word => "Unknown literal '" ++ word ++ "'"
  | .trailing offset => "Trailing characters at offset " ++ toString offset

/-- What is left to read, and how many characters were read before it. -/
structure Cursor where
  offset : Nat
  rest : List Char

namespace Cursor

def ofList (cs : List Char) : Cursor := ⟨0, cs⟩

def advance (c : Cursor) (n : Nat) : Cursor := ⟨c.offset + n, c.rest.drop n⟩

def skipBlanks (c : Cursor) : Cursor := c.advance (c.rest.takeWhile Text.isBlank).length

def next? (c : Cursor) : Option (Char × Cursor) :=
  match c.rest with
  | [] => none
  | x :: rest => some (x, ⟨c.offset + 1, rest⟩)

/-- The longest run of characters of a class, and the cursor behind it. -/
def span (c : Cursor) (p : Char → Bool) : List Char × Cursor :=
  let run := c.rest.takeWhile p
  (run, c.advance run.length)

end Cursor

/-- The code of an escape: hexadecimal digits of a fixed width, the first of which may be a plus. -/
def escapeCode? (cs : List Char) : Option Nat :=
  let digits := match cs with
    | '+' :: rest => rest
    | _ => cs
  if digits.isEmpty then none
  else digits.foldl (fun n c => do return (← n) * 16 + (← Text.hexValue? c)) (some 0)

def hexChar (width : Nat) (c : Cursor) : Except Failure (Char × Cursor) :=
  let digits := c.rest.take width
  if digits.length < width then .error .truncatedEscape
  else
    match escapeCode? digits with
    | none => .error (.invalidEscape (String.ofList digits))
    | some n =>
      if n.isValidChar then .ok (Char.ofNat n, c.advance width)
      else .error (.invalidCodePoint n)

/-- The character that stands behind a backslash; an unknown one stands for itself. -/
def escape (c : Cursor) : Except Failure (Char × Cursor) :=
  match c.next? with
  | none => .error .unterminatedEscape
  | some (e, c) =>
    if e = 'n' then .ok ('\n', c)
    else if e = 't' then .ok ('\t', c)
    else if e = 'r' then .ok ('\r', c)
    else if e = '0' then .ok ('\x00', c)
    else if e = 'x' then hexChar 2 c
    else if e = 'u' then hexChar 4 c
    else if e = 'U' then hexChar 8 c
    else .ok (e, c)

/-- The text up to the closing quote; every step reads at least one character. -/
def stringBody (quote : Char) : Nat → Cursor → Except Failure (List Char × Cursor)
  | 0, _ => .error .unterminatedString
  | fuel + 1, c =>
    match c.next? with
    | none => .error .unterminatedString
    | some (x, c) =>
      if x = quote then .ok ([], c)
      else if x = '\\' then do
        let (y, c) ← escape c
        let (ys, c) ← stringBody quote fuel c
        return (y :: ys, c)
      else do
        let (ys, c) ← stringBody quote fuel c
        return (x :: ys, c)

def string (fuel : Nat) (c : Cursor) : Except Failure (Json × Cursor) :=
  match c.next? with
  | none => .error .unexpectedEnd
  | some (quote, c) => do
    let (cs, c) ← stringBody quote fuel c
    return (.string (String.ofList cs), c)

def isNumberChar (c : Char) : Bool :=
  c.isDigit || c = '-' || c = '+' || c = '.' || c = 'e' || c = 'E'

/-- A whole number of signed 64 bits, else a finite binary number. -/
def numberValue? (cs : List Char) : Option Json.Number :=
  match Number.signed? cs with
  | some n => some (.int n)
  | none => ((Number.Double.parse? cs).filter Number.Double.isFinite).map .real

def number (c : Cursor) : Except Failure (Json × Cursor) :=
  let (cs, c) := c.span isNumberChar
  match numberValue? cs with
  | some n => .ok (.number n, c)
  | none => .error (.invalidNumber (String.ofList cs))

def isQuote (c : Char) : Bool := c = '\x27' || c = '"'

/-- Words that may stand before the quote of a string. -/
def stringMarks : List String := ["u", "r", "b", "ur", "br", "rb"]

/-- A named constant, or a string with a mark in front. -/
def word (fuel : Nat) (c : Cursor) : Except Failure (Json × Cursor) :=
  let (cs, c) := c.span (fun x => x.isAlphanum || x = '_')
  let name := String.ofList cs
  if name = "None" then .ok (.null, c)
  else if name = "True" then .ok (.bool true, c)
  else if name = "False" then .ok (.bool false, c)
  else if stringMarks.contains name && (c.rest.head?.any isQuote) then string fuel c
  else .error (.unknownWord name)

def keyText : Json → String
  | .string s => s
  | value => value.compact

/-- A step of the reader, which counts the brackets that are open, also past a failure. -/
abbrev Counted (α : Type) : Type := ExceptT Failure (StateM Nat) α

namespace Counted

/-- A step with one more bracket counted, which is taken back also where the step fails. -/
def enclosed {α : Type} (step : Counted α) : Counted α := do
  modify (· + 1)
  let result ← ExceptT.lift step.run
  modify (· - 1)
  liftExcept result

def nested {α : Type} (offset : Nat) (step : Counted α) : Counted α := do
  if maxDepth ≤ (← get) then throw (.tooDeep offset) else enclosed step

mutual

/-- Reads a value. The fuel is at least the number of characters left, since all but every second
step reads one. -/
def value : Nat → Cursor → Counted (Json × Cursor)
  | 0, _ => throw .unexpectedEnd
  | fuel + 1, c =>
    let c := c.skipBlanks
    match c.rest with
    | [] => throw .unexpectedEnd
    | x :: _ =>
      if x = '[' then nested c.offset do
        let (items, c) ← items ']' fuel (c.advance 1)
        return (.array items, c)
      else if x = '(' then nested c.offset do
        let (items, c) ← items ')' fuel (c.advance 1)
        return (.array items, c)
      else if x = '\x7b' then nested c.offset do
        let (fields, c) ← fields fuel (c.advance 1)
        return (.ofFields fields, c)
      else if isQuote x then liftExcept (string fuel c)
      else if x = '-' || x = '+' || x.isDigit then liftExcept (number c)
      else if x.isAlpha then liftExcept (word fuel c)
      else throw (.unexpectedCharacter x c.offset)

/-- Reads the items of a sequence and its closing bracket; a comma may follow the last item. -/
def items (close : Char) : Nat → Cursor → Counted (List Json × Cursor)
  | 0, _ => throw .unexpectedEnd
  | fuel + 1, c =>
    let c := c.skipBlanks
    if c.rest.head? = some close then return ([], c.advance 1)
    else do
      let (item, c) ← value fuel c
      let c := c.skipBlanks
      match c.rest with
      | [] => throw (.expectedSeparator close none)
      | x :: _ =>
        if x = ',' then do
          let (rest, c) ← items close fuel (c.advance 1)
          return (item :: rest, c)
        else if x = close then return ([item], c.advance 1)
        else throw (.expectedSeparator close (some x))

/-- Reads the fields of a dict and its closing brace; a comma may follow the last field. -/
def fields : Nat → Cursor → Counted (List (String × Json) × Cursor)
  | 0, _ => throw .unexpectedEnd
  | fuel + 1, c =>
    let c := c.skipBlanks
    if c.rest.head? = some '\x7d' then return ([], c.advance 1)
    else do
      let (key, c) ← value fuel c
      let key := keyText key
      let c := c.skipBlanks
      if c.rest.head? = some ':' then do
        let (item, c) ← value fuel (c.advance 1)
        let c := c.skipBlanks
        match c.rest with
        | [] => throw (.expectedSeparator '\x7d' none)
        | x :: _ =>
          if x = ',' then do
            let (rest, c) ← fields fuel (c.advance 1)
            return ((key, item) :: rest, c)
          else if x = '\x7d' then return ([(key, item)], c.advance 1)
          else throw (.expectedSeparator '\x7d' (some x))
      else throw (.expectedColon key)

end

/-- Reads a whole literal; blanks may stand around it. -/
def read (cs : List Char) : Counted Json := do
  let (result, c) ← value (2 * cs.length + 2) (Cursor.ofList cs)
  let c := c.skipBlanks
  if c.rest.isEmpty then return result else throw (.trailing c.offset)

/-- What a step comes to inside `depth` brackets. -/
def result {α : Type} (step : Counted α) (depth : Nat) : Except Failure α := (step.run.run depth).1

end Counted

def value (fuel depth : Nat) (c : Cursor) : Except Failure (Json × Cursor) :=
  (Counted.value fuel c).result depth

def items (close : Char) (fuel depth : Nat) (c : Cursor) : Except Failure (List Json × Cursor) :=
  (Counted.items close fuel c).result depth

def fields (fuel depth : Nat) (c : Cursor) : Except Failure (List (String × Json) × Cursor) :=
  (Counted.fields fuel c).result depth

def read (cs : List Char) : Except Failure Json := (Counted.read cs).result 0

end Subtitling.Catalog.Literal
