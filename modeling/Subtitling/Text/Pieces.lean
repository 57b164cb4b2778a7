/-!
Taking texts apart: at a separator, into lines, from the blanks at their ends, and from tags.

A line ends at a line feed, or at a carriage return and a line feed; a carriage return alone is
an ordinary character, and a text that ends in a line break has no empty line after it. "Blank"
is the Unicode property `White_Space`, which is wider than `Char.isWhitespace`; in particular the
zero-width space is not in it. A tag is an angle or a curly bracket up to the next bracket that
closes it. A bracket that nothing closes is ordinary text, and the search goes on behind it;
which brackets are closed is found in one pass from the back.
-/

namespace Subtitling.Text

/-- The pieces between the elements that satisfy `p`; there is always one more piece than those. -/
def splitWhen {α : Type} (p : α → Bool) : List α → List (List α)
  | [] => [[]]
  | x :: rest =>
    if p x then [] :: splitWhen p rest
    else
      match splitWhen p rest with
      | [] => [[x]]
      | piece :: more => (x :: piece) :: more

def lines : List Char → List (List Char)
  | [] => []
  | '\n' :: rest => [] :: lines rest
  | '\r' :: '\n' :: rest => [] :: lines rest
  | c :: rest =>
    match lines rest with
    | [] => [[c]]
    | line :: more => (c :: line) :: more

/-- Lines joined by line feeds, with none after the last. -/
def joinLines (parts : List (List Char)) : List Char := ['\n'].intercalate parts

def isBlank (c : Char) : Bool :=
  let n := c.toNat
  (9 ≤ n && n ≤ 13) || n == 0x20 || n == 0x85 || n == 0xa0 || n == 0x1680 ||
    (0x2000 ≤ n && n ≤ 0x200a) || n == 0x2028 || n == 0x2029 || n == 0x202f ||
    n == 0x205f || n == 0x3000

def trimLeft (cs : List Char) : List Char := cs.dropWhile isBlank

def trimRight (cs : List Char) : List Char := (cs.reverse.dropWhile isBlank).reverse

def trim (cs : List Char) : List Char := trimRight (trimLeft cs)

def trimmed (s : String) : String := String.ofList (trim s.toList)

/-- Whether a text holds nothing but blanks. -/
def isBlankText (s : String) : Bool := (trim s.toList).isEmpty

/-- The bracket that closes the tag which `c` opens. -/
def tagCloser? (c : Char) : Option Char :=
  if c = '<' then some '>' else if c = '\x7b' then some '\x7d' else none

def isTagCloser (c : Char) : Bool := c = '>' || c = '\x7d'

/-- A character, with the bracket that closes it if it opens a tag. -/
structure Marked where
  char : Char
  closer : Option Char

/-- A text with its tags found, and the closing brackets that occur in it. -/
def markTags : List Char → List Marked × List Char
  | [] => ([], [])
  | c :: rest =>
    let (marked, closers) := markTags rest
    (⟨c, (tagCloser? c).filter closers.contains⟩ :: marked,
      if isTagCloser c && !closers.contains c then c :: closers else closers)

/-- Puts `fill` in place of every tag; inside a tag all is skipped up to its closing bracket. -/
def replaceTagsFrom (fill : List Char) : Option Char → List Marked → List Char
  | _, [] => []
  | some close, m :: rest =>
    if m.char = close then replaceTagsFrom fill none rest
    else replaceTagsFrom fill (some close) rest
  | none, m :: rest =>
    match m.closer with
    | some close => fill ++ replaceTagsFrom fill (some close) rest
    | none => m.char :: replaceTagsFrom fill none rest

def replaceTags (fill cs : List Char) : List Char := replaceTagsFrom fill none (markTags cs).1

def stripTags (cs : List Char) : List Char := replaceTags [] cs

end Subtitling.Text
