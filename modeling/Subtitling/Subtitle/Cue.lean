import Subtitling.Number.Text
import Subtitling.Text.Pieces

/-!
Cues, the entries of a subtitle: a number, the time it is shown, and its text. A time is written
`hours:minutes:seconds,milliseconds` and kept as a number of milliseconds. All times are words of 64
bits. Their sums are checked, so that a program that comes to a later time stops there, which only
hours past any film can show.
-/

namespace Subtitling.Subtitle

/-- A number with zeros in front, at least `width` digits. -/
def padded (width n : Nat) : List Char :=
  let digits := Nat.toDigits 10 n
  List.replicate (width - digits.length) '0' ++ digits

namespace Timestamp

def chars (ms : Nat) : List Char :=
  padded 2 (ms / 3600000) ++ ':' :: padded 2 (ms % 3600000 / 60000) ++
    ':' :: padded 2 (ms % 60000 / 1000) ++ ',' :: padded 3 (ms % 1000)

def format (ms : Nat) : String := String.ofList (chars ms)

inductive Part
  | hours
  | minutes
  | seconds
  | milliseconds
deriving DecidableEq

def Part.name : Part → String
  | .hours => "hours"
  | .minutes => "minutes"
  | .seconds => "seconds"
  | .milliseconds => "milliseconds"

inductive Failure
  | format (text : String)
  | part (p : Part)
  | outOfRange (text : String)
deriving DecidableEq

def Failure.message : Failure → String
  | .format text => "Invalid timestamp format: " ++ text
  | .part p => "Failed to parse " ++ p.name
  | .outOfRange text => "Invalid time components in timestamp: " ++ text

def part? (p : Part) (cs : List Char) : Except Failure Nat :=
  match Number.unsigned? cs with
  | some n => .ok n
  | none => .error (.part p)

def isSeparator (c : Char) : Bool := c = ':' || c = ',' || c = '.'

/-- How a reading ends. An overflow is a panic: it ends the program, and no caller sees it as an
error. -/
inductive Outcome
  | ok (time : Nat)
  | error (why : Failure)
  | panic
deriving DecidableEq

/-- What the four numbers between the separators come to, all but the hours within their range. -/
def sum (text : String) : Except Failure Nat :=
  match Text.splitWhen isSeparator (Text.trim text.toList) with
  | [h, m, s, ms] => do
    let hours ← part? .hours h
    let minutes ← part? .minutes m
    let seconds ← part? .seconds s
    let millis ← part? .milliseconds ms
    if 60 ≤ minutes || 60 ≤ seconds || 1000 ≤ millis then throw (.outOfRange text)
    else return hours * 3600000 + minutes * 60000 + seconds * 1000 + millis
  | _ => .error (.format text)

/-- Reads a time stamp. Nothing bounds the hours, and a product or sum that 64 bits do not hold
is an overflow: as all terms are added up, one of them does just if the whole sum does. -/
def parse (text : String) : Outcome :=
  match sum text with
  | .ok time => if time < Nat.pow 2 64 then .ok time else .panic
  | .error why => .error why

end Timestamp

/-- A cue; its times are milliseconds and the lines of its text are joined by line feeds. -/
structure Cue where
  number : Nat
  start : Nat
  stop : Nat
  text : String
deriving DecidableEq

def plainLine (line : List Char) : List Char := Text.trim (Text.stripTags line)

/-- The text without tags, line by line. -/
def Cue.plainText (c : Cue) : String :=
  String.ofList (Text.joinLines ((Text.lines c.text.toList).map plainLine))

/-- A translated line: the position of a cue, counted from zero, and its new text. -/
structure Line where
  position : Int
  text : String
deriving DecidableEq

end Subtitling.Subtitle
