import Subtitling.Language.Table
import Subtitling.Text.LowerCase
import Subtitling.Text.Pieces

/-!
Language codes and tags. A code names a language by two letters, by three, or by the three letters
that libraries use; all of them normalise to the three-letter code, which is how two codes are
compared. A code is read without regard to case and to blanks around it, and shown as it was given
when it names no language.

A tag is the compact notation of the catalog: a code, and after a colon what kind of track it is,
such as `en`, `en:hi` or `pt:forced`. Only the first modifier counts and an unknown one is
ignored, so a tag never is both for the hard of hearing and forced.
-/

namespace Subtitling.Language

def undetermined : String := "und"

/-- Trimmed and lower-cased, the form in which codes are compared as texts. -/
def fold (code : String) : String := Text.lower (Text.trimmed code)

def byTwoLetters? (code : String) : Option Entry :=
  entries.find? fun entry => entry.twoLetter == some code

def byThreeLetters? (code : String) : Option Entry :=
  entries.find? fun entry => entry.threeLetter == code

/-- The three-letter code that a code stands for. Lengths count bytes. -/
def threeLetters? (code : String) : Option String :=
  let folded := fold code
  if folded.utf8ByteSize = 2 then (byTwoLetters? folded).map Entry.threeLetter
  else if folded.utf8ByteSize = 3 then
    match byThreeLetters? folded with
    | some entry => some entry.threeLetter
    | none => bibliographic.lookup folded
  else none

structure UnknownCode where
  code : String
deriving DecidableEq

def UnknownCode.message (e : UnknownCode) : String :=
  "Cannot normalize invalid language code: " ++ e.code

def normalize (code : String) : Except UnknownCode String :=
  match threeLetters? code with
  | some normal => .ok normal
  | none => .error ⟨code⟩

def find (code : String) : Except UnknownCode Entry := do
  let normal ← normalize code
  match byThreeLetters? normal with
  | some entry => return entry
  | none => throw ⟨code⟩

/-- The two-letter code of a language, or the three-letter one where there is none. -/
def shortest (code : String) : Except UnknownCode String :=
  (find code).map fun entry => entry.twoLetter.getD entry.threeLetter

def name (code : String) : Except UnknownCode String := (find code).map Entry.name

/-- The name of a language for display; a code that names none is shown as it is. -/
def displayName (code : String) : String :=
  match name code with
  | .ok name => name
  | .error _ => code

def codesMatch (a b : String) : Bool :=
  match threeLetters? a, threeLetters? b with
  | some a, some b => a == b
  | _, _ => false

def serviceSpellings : List (String × String) :=
  [("he", "iw"), ("zh", "zh-CN"), ("zt", "zh-TW")]

def serviceCode (code : String) : String := (serviceSpellings.lookup code).getD code

structure Tag where
  code : String
  /-- For the hard of hearing. -/
  hi : Bool
  /-- Only what a viewer needs who knows the language of the sound. -/
  forced : Bool
deriving DecidableEq

/-- Reads a tag; an empty code is `und`. -/
def Tag.parse (text : String) : Tag :=
  let parts :=
    (Text.splitWhen (· = ':') (Text.trim text.toList)).map fun cs => fold (String.ofList cs)
  let code := parts.headD ""
  let modifier := parts[1]?
  ⟨if code.isEmpty then undetermined else code, modifier == some "hi", modifier == some "forced"⟩

def Tag.display (t : Tag) : String :=
  t.code ++ if t.hi then ":hi" else if t.forced then ":forced" else ""

end Subtitling.Language
