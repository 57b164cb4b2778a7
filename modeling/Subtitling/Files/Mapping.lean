import Subtitling.Media.Kind

/-!
Where the catalog's paths lie on this machine. A rule puts one front of a path in place of another
and then follows the separators of its target; the first rule of the kind of media that fits
decides, and a path that none fits stays as it is.
-/

namespace Subtitling.Files

structure MappingRule where
  source : String
  target : String
deriving DecidableEq

def replaceChar (old new : Char) (cs : List Char) : List Char :=
  cs.map fun c => if c = old then new else c

/-- Whether the target is written with backslashes alone. -/
def MappingRule.usesBackslash (rule : MappingRule) : Bool :=
  rule.target.toList.contains '\\' && !rule.target.toList.contains '/'

/-- What a rule makes of a path; a rule with an empty source fits none. -/
def MappingRule.mapped? (rule : MappingRule) (path : String) : Option String :=
  let source := rule.source.toList
  if source.isEmpty || !source.isPrefixOf path.toList then none
  else
    let image := rule.target.toList ++ path.toList.drop source.length
    some <| String.ofList <|
      if rule.usesBackslash then replaceChar '/' '\\' image else replaceChar '\\' '/' image

structure Mappings where
  series : List MappingRule
  movies : List MappingRule
deriving DecidableEq

def Mappings.identity : Mappings := ⟨[], []⟩

def Mappings.rules (m : Mappings) : Media.Kind → List MappingRule
  | .episode => m.series
  | .movie => m.movies

def Mappings.map (m : Mappings) (kind : Media.Kind) (path : String) : String :=
  ((m.rules kind).findSome? (·.mapped? path)).getD path

end Subtitling.Files
