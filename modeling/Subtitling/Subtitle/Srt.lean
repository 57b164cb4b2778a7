import Subtitling.Subtitle.Cue
import Subtitling.Text.CharacterClass

/-!
The SRT format. A file is a row of blocks between blank lines; a block that has a timing line is a
cue. Before its timing line a block may have a number, and all other lines of it are text, also
those that stand before the timing line. Writing numbers the cues afresh.
-/

namespace Subtitling.Subtitle.Srt

/-- The value of the digits of a part; digits of other scripts have none and make it zero. -/
def partValue (cs : List Char) : Nat := (Number.natural? cs).getD 0

/-- Exactly `n` digits of any script. -/
def takeDigits (n : Nat) (cs : List Char) : Option (Nat × List Char) :=
  let digits := cs.take n
  if digits.length = n && digits.all Text.isDecimalDigit then some (partValue digits, cs.drop n)
  else none

def takeOneOf (set : List Char) : List Char → Option (List Char)
  | [] => none
  | c :: rest => if set.contains c then some rest else none

/-- Hours have one digit or two, whichever a colon follows. -/
def takeHours (cs : List Char) : Option (Nat × List Char) :=
  let followed (n : Nat) : Option (Nat × List Char) := do
    let (value, rest) ← takeDigits n cs
    let rest ← takeOneOf [':'] rest
    return (value, rest)
  followed 2 <|> followed 1

def takeStamp (cs : List Char) : Option (Nat × List Char) := do
  let (hours, cs) ← takeHours cs
  let (minutes, cs) ← takeDigits 2 cs
  let cs ← takeOneOf [':'] cs
  let (seconds, cs) ← takeDigits 2 cs
  let cs ← takeOneOf [',', '.'] cs
  let (millis, cs) ← takeDigits 3 cs
  return ((hours * 3600 + minutes * 60 + seconds) * 1000 + millis, cs)

/-- The arrow between two time stamps, with blanks around it. -/
def takeArrow (cs : List Char) : Option (List Char) :=
  match Text.trimLeft cs with
  | '-' :: '-' :: '>' :: rest => some (Text.trimLeft rest)
  | _ => none

def takeTiming (cs : List Char) : Option (Nat × Nat) := do
  let (start, cs) ← takeStamp cs
  let cs ← takeArrow cs
  let (stop, _) ← takeStamp cs
  return (start, stop)

/-- The first timing anywhere in a line. -/
def findTiming : List Char → Option (Nat × Nat)
  | [] => none
  | c :: rest => takeTiming (c :: rest) <|> findTiming rest

/-- The part of a block that was read so far. -/
structure Block where
  number : Option Nat
  times : Option (Nat × Nat)
  /-- The lines of text, the last one first. -/
  latest : List (List Char)

def Block.empty : Block := ⟨none, none, []⟩

/-- The cue that a block makes, if it has a timing; `count` cues come before it. -/
def Block.cue? (b : Block) (count : Nat) : Option Cue :=
  b.times.map fun (start, stop) =>
    ⟨b.number.getD (count + 1), start, stop, String.ofList (Text.joinLines b.latest.reverse)⟩

/-- A block with one more line, which is trimmed and not blank. -/
def Block.add (b : Block) (line : List Char) : Block :=
  let asText : Block := { b with latest := line :: b.latest }
  if b.times.isSome then asText
  else
    match findTiming line with
    | some times => { b with times := some times }
    | none =>
      if b.number.isNone && b.latest.isEmpty then
        match Number.unsigned? line with
        | some n => { b with number := some n }
        | none => asText
      else asText

/-- The cues of trimmed lines, with a block under way and `count` cues before it. -/
def readLines (b : Block) (count : Nat) : List (List Char) → List Cue
  | [] => (b.cue? count).toList
  | line :: rest =>
    if line.isEmpty then
      match b.cue? count with
      | some cue => cue :: readLines Block.empty (count + 1) rest
      | none => readLines Block.empty count rest
    else readLines (b.add line) count rest

/-- Marks at the front that only tell the byte order. -/
def dropMarks (cs : List Char) : List Char := cs.dropWhile (· = '\ufeff')

def parse (cs : List Char) : List Cue :=
  readLines Block.empty 0 ((Text.lines (dropMarks cs)).map Text.trim)

def writeCue (number : Nat) (c : Cue) : List Char :=
  Nat.toDigits 10 number ++ '\n' :: Timestamp.chars c.start ++ [' ', '-', '-', '>', ' '] ++
    Timestamp.chars c.stop ++ '\n' :: c.text.toList ++ ['\n', '\n']

def writeFrom (first : Nat) : List Cue → List Char
  | [] => []
  | c :: rest => writeCue first c ++ writeFrom (first + 1) rest

/-- A file of cues, numbered from one. -/
def write (cues : List Cue) : List Char := writeFrom 1 cues

def render (cues : List Cue) : String := String.ofList (write cues)

end Subtitling.Subtitle.Srt
