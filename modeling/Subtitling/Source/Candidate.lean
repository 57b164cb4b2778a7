import Subtitling.Language.Code

/-!
Candidates: subtitles that are known to exist in some language and could be translated from. They
are ranked by the kind of track, and where the language is free also by whether it is English.
-/

namespace Subtitling.Source

inductive Origin
  | database
  | filesystem
deriving DecidableEq

def Origin.name : Origin → String
  | .database => "database"
  | .filesystem => "filesystem"

structure Candidate where
  language : String
  /-- The path as stored, before any mapping. -/
  path : String
  hi : Bool
  forced : Bool
  origin : Origin
deriving DecidableEq

namespace Candidate

/-- A candidate with a folded language code; a path must not be empty, and an empty code is
`und`. -/
def make? (language path : String) (hi forced : Bool) (origin : Origin) : Option Candidate :=
  if path.isEmpty then none
  else
    let code := Language.fold language
    some ⟨if code.isEmpty then Language.undetermined else code, path, hi, forced, origin⟩

def ofTag? (tag path : String) : Option Candidate :=
  let t := Language.Tag.parse tag
  make? t.code path t.hi t.forced .database

def isCommonLanguage (c : Candidate) : Bool := c.language = "en" || c.language = "eng"

/-- The weight of a list of faults, the first of them weighing most. -/
def weight (faults : List Bool) : Nat := faults.foldl (fun n fault => 2 * n + fault.toNat) 0

/-- Faults among candidates of one language: forced tracks, then those for the hard of hearing. -/
def exactFaults (c : Candidate) : List Bool := [c.forced, c.hi]

/-- Faults among candidates of any language: as before, then languages that few understand. -/
def fallbackFaults (c : Candidate) : List Bool := [c.forced, c.hi, !c.isCommonLanguage]

/-- Candidates by rising weight of their faults; equals keep their order. -/
def sortBy (faults : Candidate → List Bool) (cs : List Candidate) : List Candidate :=
  cs.mergeSort fun a b => weight (faults a) ≤ weight (faults b)

end Candidate

end Subtitling.Source
