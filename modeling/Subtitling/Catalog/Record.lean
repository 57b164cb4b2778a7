import Subtitling.Catalog.Stored
import Subtitling.Media.Kind

/-!
What the catalog knows of an episode or a movie, and the one form in which both are worked on.
-/

namespace Subtitling.Catalog

structure Episode where
  id : Int
  seriesId : Int
  seriesTitle : String
  title : String
  season : Int
  number : Int
  /-- The video as the catalog names it. -/
  path : String
  /-- The column of known subtitles. -/
  subtitles : Option String
deriving DecidableEq

structure Movie where
  id : Int
  title : String
  path : String
  subtitles : Option String
deriving DecidableEq

/-- The row of an episode once it has taken over the columns of a new one with its id. -/
def Episode.takeOver (e new : Episode) : Episode :=
  { e with
    seriesId := new.seriesId
    seriesTitle := new.seriesTitle
    title := new.title
    season := new.season
    number := new.number
    path := new.path
    subtitles := new.subtitles }

def Movie.takeOver (m new : Movie) : Movie :=
  { m with title := new.title, path := new.path, subtitles := new.subtitles }

/-- At least two characters: a sign, zeros, digits. -/
def paddedNumber (n : Int) : String :=
  if n < 0 then toString n
  else
    let digits := toString n
    if digits.length < 2 then "0" ++ digits else digits

def Episode.displayTitle (e : Episode) : String :=
  e.seriesTitle ++ " - S" ++ paddedNumber e.season ++ "E" ++ paddedNumber e.number ++ " - " ++
    e.title

structure Item where
  kind : Media.Kind
  /-- The id of the series or of the movie. -/
  mediaId : Int
  title : String
  videoPath : String
  subtitles : List Source.Candidate
deriving DecidableEq

def Episode.item (e : Episode) : Item :=
  ⟨.episode, e.seriesId, e.displayTitle, e.path, decodeColumn e.subtitles⟩

def Movie.item (m : Movie) : Item := ⟨.movie, m.id, m.title, m.path, decodeColumn m.subtitles⟩

end Subtitling.Catalog
