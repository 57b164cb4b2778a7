import Subtitling.Encoding.Sniff
import Subtitling.Files.Tree
import Subtitling.Subtitle.Srt
import Subtitling.Text.Quoted

/-!
A subtitle as a whole: the cues of one file. Translated lines are put in by position, and a last cue
can be added that says where they come from.
-/

namespace Subtitling.Subtitle

/-- The cues of a file, in order. -/
structure Track where
  source : String
  cues : List Cue
deriving DecidableEq

structure LoadError where
  path : String
  cause : Files.OsError
deriving DecidableEq

def LoadError.message (e : LoadError) : String :=
  "Failed to read subtitle file: " ++ Text.quoted e.path ++ ": " ++ e.cause.message

namespace Track

def empty (source : String) : Track := ⟨source, []⟩

def load (t : Files.Tree) (path : String) : Except LoadError Track :=
  match t.read path with
  | .ok content => .ok ⟨path, Srt.parse (Encoding.decode content).1⟩
  | .error e => .error ⟨path, e⟩

def plainTexts (t : Track) : List String := t.cues.map Cue.plainText

/-- The cue that a line is for, unless the line is empty. -/
def targetOf? (line : Line) (count : Nat) : Option Nat :=
  if line.text.isEmpty then none
  else if 0 ≤ line.position ∧ line.position.toNat < count then some line.position.toNat
  else none

def spliceCues (count : Nat) (cues : Array Cue) (line : Line) : Array Cue :=
  match targetOf? line count with
  | some i => cues.modify i fun c => { c with text := line.text }
  | none => cues

/-- Puts lines in, one after the other. Empty lines, and lines for no cue, leave all as it was. -/
def splice (t : Track) (lines : List Line) : Track :=
  { t with cues := (lines.foldl (spliceCues t.cues.length) t.cues.toArray).toList }

/-- How many of the lines are put in. -/
def countSpliced (t : Track) (lines : List Line) : Nat :=
  let count := t.cues.length
  lines.countP fun line => (targetOf? line count).isSome

/-- The latest end of all cues, if there are any. -/
def lastStop? (t : Track) : Option Nat := (t.cues.map Cue.stop).max?

/-- A cue after all others: it starts a second after the latest end and lasts for five. -/
def marker (t : Track) (text : String) : Cue :=
  let start := match t.lastStop? with
    | some stop => stop + 1000
    | none => 0
  ⟨t.cues.length + 1, start, start + 5000, text⟩

def appendMarker (t : Track) (text : String) : Track := { t with cues := t.cues ++ [t.marker text] }

/-- Adds a marker as the program does, on times of 64 bits: where its end overflows there is no
result. No track of a file is near that, so its marker is always added. -/
def appendMarker? (t : Track) (text : String) : Option Track :=
  if (t.marker text).stop < Nat.pow 2 64 then some (t.appendMarker text) else none

def render (t : Track) : String := Srt.render t.cues

/-- What a track is, in three lines. -/
def display (t : Track) : String :=
  "Subtitle Collection\nSource: " ++ Text.quoted t.source ++ "\nEntries: " ++
    toString t.cues.length ++ "\n"

end Track

end Subtitling.Subtitle
