import Subtitling.Text.LowerCase
import Subtitling.Text.Pieces

/-!
The two kinds of media that subtitles belong to, and the ids that name one item of them.
-/

namespace Subtitling.Media

inductive Kind
  | episode
  | movie
deriving DecidableEq

/-- The spelling in storage and in batches. -/
def Kind.name : Kind → String
  | .episode => "episode"
  | .movie => "movie"

/-- The spelling the service expects. -/
def Kind.serviceName : Kind → String
  | .episode => "Episode"
  | .movie => "Movie"

/-- Reads a kind; the plural names of collections are accepted too. -/
def Kind.parse? (text : String) : Option Kind :=
  let folded := Text.lower (Text.trimmed text)
  if folded = "episode" || folded = "series" then some .episode
  else if folded = "movie" || folded = "movies" then some .movie
  else none

def Kind.invalidMessage (text : String) : String := "Invalid media kind: " ++ text

inductive Ref
  | episode (seriesId episodeId : Int)
  | movie (movieId : Int)
deriving DecidableEq

def Ref.kind : Ref → Kind
  | .episode .. => .episode
  | .movie _ => .movie

def Ref.lookupId : Ref → Int
  | .episode _ episodeId => episodeId
  | .movie movieId => movieId

/-- The ids of a series, an episode and a movie that history keeps. -/
structure Ids where
  series : Option Int
  episode : Option Int
  movie : Option Int
deriving DecidableEq

def Ref.historyIds : Ref → Ids
  | .episode seriesId episodeId => ⟨some seriesId, some episodeId, none⟩
  | .movie movieId => ⟨none, none, some movieId⟩

end Subtitling.Media
