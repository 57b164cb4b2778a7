import Subtitling.Text.CombiningClass
import Subtitling.Text.Composition

/-!
Composed texts. A text is taken apart into its smallest characters, marks are put into the order of
their combining classes, and then everything is put together again that can be. Characters that have
no form of their own in composed texts are not taken apart here.
-/

namespace Subtitling.Text

def firstSyllable : Nat := 0xac00
def firstLeading : Nat := 0x1100
def firstVowel : Nat := 0x1161

/-- One before the first trailing consonant: none is counted as one. -/
def noTrailing : Nat := 0x11a7

def leadingCount : Nat := 19
def vowelCount : Nat := 21
def trailingCount : Nat := 28

def isIn (first count n : Nat) : Bool := first ≤ n && n < first + count

/-- The parts of a syllable, if the character is one. -/
def syllableParts? (c : Char) : Option (List Char) :=
  if isIn firstSyllable (leadingCount * vowelCount * trailingCount) c.toNat then
    let index := c.toNat - firstSyllable
    let trailing := index % trailingCount
    some ([Char.ofNat (firstLeading + index / (vowelCount * trailingCount)),
      Char.ofNat (firstVowel + index / trailingCount % vowelCount)] ++
      if trailing = 0 then [] else [Char.ofNat (noTrailing + trailing)])
  else none

/-- The syllable, with or without a trailing consonant, that two characters make. -/
def syllable? (first second : Char) : Option Char :=
  let a := first.toNat
  let b := second.toNat
  if isIn firstLeading leadingCount a && isIn firstVowel vowelCount b then
    some (Char.ofNat
      (firstSyllable + ((a - firstLeading) * vowelCount + (b - firstVowel)) * trailingCount))
  else if isIn firstSyllable (leadingCount * vowelCount * trailingCount) a &&
      (a - firstSyllable) % trailingCount = 0 && isIn (noTrailing + 1) (trailingCount - 1) b then
    some (Char.ofNat (a + (b - noTrailing)))
  else none

def parts? (c : Char) : Option (Char × Char) :=
  (compositions.find? fun k => k.whole = c).map fun k => (k.first, k.second)

/-- The smallest characters of one; the fuel bounds how deep it is made of others. -/
def takeApart : Nat → Char → List Char
  | 0, c => [c]
  | fuel + 1, c =>
    match parts? c with
    | some (first, second) => takeApart fuel first ++ [second]
    | none => [c]

def maxPartDepth : Nat := 4

def decomposeChar (c : Char) : List Char :=
  if c.toNat < 0xc0 then [c] else (syllableParts? c).getD (takeApart maxPartDepth c)

/-- Puts a mark in front of those of greater classes. -/
def insertMark (c : Char) : List Char → List Char
  | [] => [c]
  | d :: rest =>
    if combiningClass c < combiningClass d then c :: d :: rest else d :: insertMark c rest

/-- Puts marks into the order of their classes. `marks` are those since the last character that
starts afresh. -/
def orderMarks : List Char → List Char → List Char
  | marks, [] => marks
  | marks, c :: rest =>
    if combiningClass c = 0 then marks ++ c :: orderMarks [] rest
    else orderMarks (insertMark c marks) rest

def decompose (cs : List Char) : List Char := orderMarks [] (cs.flatMap decomposeChar)

def composed? (first second : Char) : Option Char :=
  (syllable? first second).orElse fun _ =>
    (compositions.find? fun k => k.first = first && k.second = second).map (·.whole)

/-- Puts characters together from the left. `starter` is the last that starts afresh, `marks` are
those since then that stay, the last one first. A mark reaches the starter if no mark of its class
or a greater one stands between them. -/
def composeFrom (starter : Char) : List Char → List Char → List Char
  | marks, [] => starter :: marks.reverse
  | marks, c :: rest =>
    let level := combiningClass c
    let reaches :=
      match marks with
      | [] => true
      | mark :: _ => combiningClass mark < level
    match if reaches then composed? starter c else none with
    | some whole => composeFrom whole marks rest
    | none =>
      if level = 0 then starter :: marks.reverse ++ composeFrom c [] rest
      else composeFrom starter (c :: marks) rest

/-- Puts together what can be. Marks at the front belong to nothing. -/
def compose (cs : List Char) : List Char :=
  let lone := cs.takeWhile fun c => combiningClass c ≠ 0
  match cs.dropWhile fun c => combiningClass c ≠ 0 with
  | [] => lone
  | starter :: rest => lone ++ composeFrom starter [] rest

def normalize (cs : List Char) : List Char :=
  if cs.all fun c => c.toNat < 0x300 then cs else compose (decompose cs)

end Subtitling.Text
