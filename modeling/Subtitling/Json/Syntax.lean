import Subtitling.Json.Value
import Subtitling.Text.Quoted
import Subtitling.Text.Utf8

/-!
JSON texts. `Json.Source.read` accepts the grammar and nothing else, keeps every field in the order
written, and puts no bound on nesting. `Json.Source.value?` then gives a value its meaning, which
some well-formed texts lack: half of a surrogate pair stands for no character, bytes in a string may
not be UTF-8, a number may be too large, and arrays and objects nest at most 127 deep. Readers of
records skip fields they do not know, so the meaning of a part is asked for only where it is used.
-/

namespace Subtitling.Json

structure NumberText where
  negative : Bool
  whole : List Char
  fraction : List Char
  exponent : Option (Bool × List Char)

/-- A JSON text: strings are code points and halves of pairs, fields are in the order written. -/
inductive Source
  | null
  | bool (b : Bool)
  | number (n : NumberText)
  | string (units : List Nat)
  | array (items : List Source)
  | object (fields : List (List Nat × Source))

def hexUnit? (a b c d : Char) : Option Nat := do
  let a ← Text.hexValue? a
  let b ← Text.hexValue? b
  let c ← Text.hexValue? c
  let d ← Text.hexValue? d
  return ((a * 16 + b) * 16 + c) * 16 + d

def simpleEscape? (c : Char) : Option Char :=
  if c = '"' || c = '\\' || c = '/' then some c
  else if c = 'b' then some '\x08'
  else if c = 'f' then some '\x0c'
  else if c = 'n' then some '\n'
  else if c = 'r' then some '\r'
  else if c = 't' then some '\t'
  else none

def readString : List Char → Option (List Nat × List Char)
  | [] => none
  | '"' :: rest => some ([], rest)
  | '\\' :: 'u' :: a :: b :: c :: d :: rest => do
    let unit ← hexUnit? a b c d
    let (units, rest) ← readString rest
    return (unit :: units, rest)
  | '\\' :: e :: rest => do
    let c ← simpleEscape? e
    let (units, rest) ← readString rest
    return (c.toNat :: units, rest)
  | c :: rest =>
    if c < ' ' || c = '\\' then none
    else do
      let (units, rest) ← readString rest
      return (c.toNat :: units, rest)

/-- The text of a string; half of a pair without the other half has none. -/
def text? : List Nat → Option (List Char)
  | [] => some []
  | n :: rest =>
    if 0xdc00 ≤ n && n < 0xe000 then none
    else if 0xd800 ≤ n && n < 0xdc00 then
      match rest with
      | m :: rest =>
        if 0xdc00 ≤ m && m < 0xe000 then do
          let cs ← text? rest
          return Char.ofNat (0x10000 + (n - 0xd800) * 0x400 + (m - 0xdc00)) :: cs
        else none
      | [] => none
    else do
      let cs ← text? rest
      return Char.ofNat n :: cs

def isDigit (c : Char) : Bool := '0' ≤ c && c ≤ '9'

def digitValue (c : Char) : Nat := c.toNat - '0'.toNat

/-- The digits at the front, at least one. -/
def readDigits (cs : List Char) : Option (List Char × List Char) :=
  match cs.takeWhile isDigit with
  | [] => none
  | digits => some (digits, cs.dropWhile isDigit)

/-- Reads a number after its sign; a leading zero stands alone. -/
def readNumber (negative : Bool) (cs : List Char) : Option (NumberText × List Char) := do
  let (whole, rest) ← readDigits cs
  if whole.length > 1 && whole.head? = some '0' then none
  else
    let (fraction, rest) ← match rest with
      | '.' :: rest => readDigits rest
      | _ => some ([], rest)
    let readExponent (rest : List Char) : Option (Option (Bool × List Char) × List Char) :=
      match rest with
      | '+' :: rest => (readDigits rest).map fun (ds, rest) => (some (false, ds), rest)
      | '-' :: rest => (readDigits rest).map fun (ds, rest) => (some (true, ds), rest)
      | _ => (readDigits rest).map fun (ds, rest) => (some (false, ds), rest)
    let (exponent, rest) ← match rest with
      | 'e' :: rest => readExponent rest
      | 'E' :: rest => readExponent rest
      | _ => some (none, rest)
    return (⟨negative, whole, fraction, exponent⟩, rest)

/-- A significand of at most 64 bits: digits that would overflow it are dropped from there on, and
the count says how many were taken. -/
def takeSignificand : Nat → List Char → Nat × Nat
  | significand, [] => (significand, 0)
  | significand, c :: rest =>
    let next := significand * 10 + digitValue c
    if next < Nat.pow 2 64 then
      let (final, taken) := takeSignificand next rest
      (final, taken + 1)
    else (significand, 0)

def tenTo (e : Nat) : Subtitling.Number.Double := .ofDecimal false 1 e

/-- Divides by powers of ten that are themselves in range, as often as it takes. -/
def shrink (x : Subtitling.Number.Double) : Nat → Nat → Subtitling.Number.Double
  | 0, _ => x
  | fuel + 1, e =>
    if e ≤ 308 then x.div (tenTo e)
    else if x.isZero then x
    else shrink (x.div (tenTo 308)) fuel (e - 308)

/-- A significand times a power of ten. The significand is rounded first and the product again, so
the result may lie one step away from the nearest number; none is past the range. -/
def fromParts (negative : Bool) (significand : Nat) (e : Int) :
    Option Subtitling.Number.Double :=
  let x := Subtitling.Number.Double.ofInt significand
  let magnitude :=
    if e < 0 then some (shrink x 12 (min (-e).toNat 3000))
    else if x.isZero then some x
    else if e ≤ 308 then
      let y := x.mul (tenTo e.toNat)
      if y.isFinite then some y else none
    else none
  magnitude.map fun y => if negative then y.negate else y

/-- The meaning of a number: whole and within 64 bits, else binary; minus zero is binary too. -/
def NumberText.value? (n : NumberText) : Option Json.Number :=
  let (significand, taken) := takeSignificand 0 n.whole
  let dropped := n.whole.length - taken
  if dropped = 0 && n.fraction.isEmpty && n.exponent.isNone then
    if n.negative then
      if significand = 0 || Nat.pow 2 63 < significand then
        some (.real (Subtitling.Number.Double.ofInt significand).negate)
      else some (.int (-(significand : Int)))
    else some (.int significand)
  else
    let (significand, shift) : Nat × Int :=
      if dropped = 0 then
        let (s, k) := takeSignificand significand n.fraction
        (s, -(k : Int))
      else
        let (s, k) := takeSignificand significand n.fraction
        (s, (dropped : Int) - k)
    let e : Int := match n.exponent with
      | none => shift
      | some (negative, digits) =>
        let size : Nat := digits.foldl (fun k c => min (k * 10 + digitValue c) (Nat.pow 2 31)) 0
        if negative then shift - size else shift + size
    (fromParts n.negative significand e).map .real

def isSpace (c : Char) : Bool := c = ' ' || c = '\n' || c = '\t' || c = '\r'

def skipSpace (cs : List Char) : List Char := cs.dropWhile isSpace

mutual

/-- Reads a value; the fuel bounds the characters that may still be read. -/
def readValue : Nat → List Char → Option (Source × List Char)
  | 0, _ => none
  | fuel + 1, cs =>
    match skipSpace cs with
    | 'n' :: 'u' :: 'l' :: 'l' :: rest => some (.null, rest)
    | 't' :: 'r' :: 'u' :: 'e' :: rest => some (.bool true, rest)
    | 'f' :: 'a' :: 'l' :: 's' :: 'e' :: rest => some (.bool false, rest)
    | '"' :: rest => (readString rest).map fun (units, rest) => (.string units, rest)
    | '-' :: rest => (readNumber true rest).map fun (n, rest) => (.number n, rest)
    | '[' :: rest =>
      match skipSpace rest with
      | ']' :: rest => some (.array [], rest)
      | rest => (readItems fuel rest).map fun (items, rest) => (.array items, rest)
    | '\x7b' :: rest =>
      match skipSpace rest with
      | '\x7d' :: rest => some (.object [], rest)
      | rest => (readFields fuel rest).map fun (fields, rest) => (.object fields, rest)
    | c :: rest =>
      if isDigit c then (readNumber false (c :: rest)).map fun (n, rest) => (.number n, rest)
      else none
    | [] => none

def readItems : Nat → List Char → Option (List Source × List Char)
  | 0, _ => none
  | fuel + 1, cs => do
    let (item, rest) ← readValue fuel cs
    match skipSpace rest with
    | ',' :: rest =>
      let (items, rest) ← readItems fuel rest
      return (item :: items, rest)
    | ']' :: rest => return ([item], rest)
    | _ => none

def readFields : Nat → List Char → Option (List (List Nat × Source) × List Char)
  | 0, _ => none
  | fuel + 1, cs =>
    match skipSpace cs with
    | '"' :: rest => do
      let (key, rest) ← readString rest
      match skipSpace rest with
      | ':' :: rest =>
        let (value, rest) ← readValue fuel rest
        match skipSpace rest with
        | ',' :: rest =>
          let (fields, rest) ← readFields fuel rest
          return ((key, value) :: fields, rest)
        | '\x7d' :: rest => return ([(key, value)], rest)
        | _ => none
      | _ => none
    | _ => none

end

def Source.read (cs : List Char) : Option Source := do
  let (source, rest) ← readValue (2 * cs.length + 2) cs
  if (skipSpace rest).isEmpty then some source else none

/-- Units that are no text. -/
def broken : List Nat := [0xdc00]

mutual

/-- Keeps what two readings of one text have in common: a string that they differ in is broken. -/
def Source.common : Source → Source → Source
  | .string units, .string others => .string (if units = others then units else broken)
  | .array items, .array others => .array (commonItems items others)
  | .object fields, .object others => .object (commonFields fields others)
  | source, _ => source

def commonItems : List Source → List Source → List Source
  | item :: rest, other :: others => item.common other :: commonItems rest others
  | _, _ => []

def commonFields :
    List (List Nat × Source) → List (List Nat × Source) → List (List Nat × Source)
  | (key, item) :: rest, (otherKey, other) :: others =>
    (if key = otherKey then key else broken, item.common other) :: commonFields rest others
  | _, _ => []

end

/-- Reads bytes. What is not UTF-8 can stand inside strings only, and those are broken: they are the
ones that depend on the mark put in its place. -/
def Source.ofBytes? (bytes : List UInt8) : Option Source :=
  if Text.Utf8.isValid bytes then Source.read (Text.Utf8.decode bytes)
  else do
    let reading (mark : Char) := Source.read (Text.Utf8.decodeWith mark bytes)
    return (← reading '\ufffd').common (← reading '\ufffc')

mutual

/-- The meaning of a text, with arrays and objects at most `depth` deep. -/
def Source.valueWithin? (depth : Nat) : Source → Option Json
  | .null => some .null
  | .bool b => some (.bool b)
  | .number n => n.value?.map .number
  | .string units => (text? units).map fun cs => .string (String.ofList cs)
  | .array items =>
    if depth = 0 then none
    else (itemsWithin? (depth - 1) items).map .array
  | .object fields =>
    if depth = 0 then none
    else (fieldsWithin? (depth - 1) fields).map ofFields

def itemsWithin? (depth : Nat) : List Source → Option (List Json)
  | [] => some []
  | item :: rest => do
    let value ← item.valueWithin? depth
    let values ← itemsWithin? depth rest
    return value :: values

def fieldsWithin? (depth : Nat) : List (List Nat × Source) → Option (List (String × Json))
  | [] => some []
  | (key, item) :: rest => do
    let key ← text? key
    let value ← item.valueWithin? depth
    let values ← fieldsWithin? depth rest
    return (String.ofList key, value) :: values

end

def maxDepth : Nat := 127

def Source.value? (source : Source) : Option Json := source.valueWithin? maxDepth

def read? (cs : List Char) : Option Json := (Source.read cs).bind Source.value?

def parse? (s : String) : Option Json := read? s.toList

end Subtitling.Json
