import Subtitling.Files.Tree
import Subtitling.Language.Code
import Subtitling.Language.Detection

/-!
Subtitles in the neighbourhood of a video: in its directory, in the folders where subtitles are
usually kept, and in a folder of the video's own name. A file is taken for English by its name; the
language of any other is detected from its first bytes.
-/

namespace Subtitling.Source

open Files

def sampleSize : Nat := 8192

def subtitleFolders : List String := ["Subs", "Subtitles", "subs", "subtitles"]

def isNameSeparator (c : Char) : Bool := c = '.' || c = '_' || c = '-'

def englishMarks : List (List Char) := ["en".toList, "eng".toList, "english".toList]

/-- Whether `cs` starts with an English mark and a separator. -/
def startsWithMark (cs : List Char) : Bool :=
  englishMarks.any fun mark =>
    mark.isPrefixOf cs && ((cs.drop mark.length).head?.any isNameSeparator)

def holdsMark : List Char → Bool
  | [] => false
  | c :: rest => (isNameSeparator c && startsWithMark rest) || holdsMark rest

def isEnglishName (name : String) : Bool := holdsMark (Text.lowerChars name.toList)

structure Found where
  path : String
  filename : String
  isEnglish : Bool
  language : String
deriving DecidableEq

/-- The places that hold the subtitles of a video: each directory that exists, once, under the first
of its spellings. -/
def distinctDirectories (t : Tree) : List Location → List String → List String
  | _, [] => []
  | seen, dir :: rest =>
    match t.find dir with
    | .ok (place, .directory) =>
      if seen.contains place then distinctDirectories t seen rest
      else dir :: distinctDirectories t (place :: seen) rest
    | _ => distinctDirectories t seen rest

def searchDirectories (t : Tree) (video : String) : List String :=
  let dir := Path.directory video
  distinctDirectories t [] <|
    dir :: subtitleFolders.map (Path.join dir) ++ ((Path.stem? video).map (Path.join dir)).toList

def sampleLanguage (d : Language.Detector) (t : Tree) (path : String) : Option String :=
  match t.read path with
  | .ok content => (d.detect (content.take sampleSize)).map Text.lower
  | .error _ => none

/-- Classifies a file, by its name if that says English. -/
def classify (d : Language.Detector) (t : Tree) (path : String) : Found :=
  let name := (Path.fileName? path).getD ""
  let language := if isEnglishName name then some "en" else sampleLanguage d t path
  ⟨path, name, isEnglishName name || language == some "en", language.getD Language.undetermined⟩

/-- Whether one may stand before the other: English first, then by name. -/
def Found.before (a b : Found) : Bool :=
  if a.isEnglish = b.isEnglish then a.filename ≤ b.filename else a.isEnglish

/-- The subtitles around a video; of equals, the one whose directory is searched first. -/
def scan (d : Language.Detector) (t : Tree) (video : String) : List Found :=
  (((searchDirectories t video).flatMap fun dir => t.filesWithExtension dir "srt").map
    (classify d t)).mergeSort Found.before

end Subtitling.Source
