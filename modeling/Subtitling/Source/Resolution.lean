import Subtitling.Files.Mapping
import Subtitling.Source.Candidate
import Subtitling.Source.Scan
import Subtitling.Text.Quoted

/-!
Which subtitle to translate from. Candidates in the requested language come first, then those in
any other, and what lies around the video last; within a pass the least fault wins, and a candidate
counts only where its file is found, under its mapped path or else under the stored one.
-/

namespace Subtitling.Source

open Files

/-- The passes of a search, in order. -/
inductive Pass
  | exact
  | fallback
  | filesystem
deriving DecidableEq

def Pass.name : Pass → String
  | .exact => "exact"
  | .fallback => "fallback"
  | .filesystem => "filesystem"

structure Resolution where
  path : String
  language : String
  pass : Pass
deriving DecidableEq

def Resolution.isExact (r : Resolution) : Bool := r.pass = .exact

structure NotFound where
  language : String
  video : String
deriving DecidableEq

def NotFound.message (e : NotFound) : String :=
  "No subtitle found for language '" ++ e.language ++ "' near " ++ Text.quoted e.video

structure Resolver where
  mappings : Mappings
  detector : Language.Detector
deriving DecidableEq

namespace Resolver

def locate (r : Resolver) (t : Tree) (kind : Media.Kind) (stored : String) : Option String :=
  let mapped := r.mappings.map kind stored
  if t.exists? mapped then some mapped else if t.exists? stored then some stored else none

/-- The first candidate whose file is found. -/
def firstExisting (r : Resolver) (t : Tree) (kind : Media.Kind) (pass : Pass)
    (ranked : List Candidate) : Option Resolution :=
  ranked.findSome? fun c => (r.locate t kind c.path).map fun path => ⟨path, c.language, pass⟩

/-- Candidates in the requested language, which is folded already. -/
def exactPass (r : Resolver) (t : Tree) (kind : Media.Kind) (candidates : List Candidate)
    (requested : String) : Option Resolution :=
  r.firstExisting t kind .exact <|
    Candidate.sortBy Candidate.exactFaults (candidates.filter (·.language == requested))

def fallbackPass (r : Resolver) (t : Tree) (kind : Media.Kind) (candidates : List Candidate) :
    Option Resolution :=
  r.firstExisting t kind .fallback (Candidate.sortBy Candidate.fallbackFaults candidates)

/-- What lies around the video: English if there is any, else the first. -/
def filesystemPass (r : Resolver) (t : Tree) (video : String) : Option Resolution :=
  let found := scan r.detector t video
  match found.find? Found.isEnglish with
  | some f => some ⟨f.path, "en", .filesystem⟩
  | none => found.head?.map fun f => ⟨f.path, f.language, .filesystem⟩

def resolve (r : Resolver) (t : Tree) (candidates : List Candidate) (language video : String)
    (kind : Media.Kind) : Except NotFound Resolution :=
  let requested := Language.fold language
  match r.exactPass t kind candidates requested with
  | some found => .ok found
  | none =>
    match r.fallbackPass t kind candidates with
    | some found => .ok found
    | none =>
      match r.filesystemPass t video with
      | some found => .ok found
      | none => .error ⟨requested, video⟩

end Resolver

end Subtitling.Source
