import Subtitling.Proofs.Batch.Requests
import Subtitling.Proofs.Number.Text
import Subtitling.Proofs.Number.Whole

/-!
Ids of batch items. A whole number is read as the id that it denotes, be it written as a number
or as a numeral in a text, as long as it fits signed 64 bits. One that does not fit is no id as a
text, but as a number it is read as the end of the range that it lies beyond, which is the id of
something else.
-/

namespace Subtitling

/-- The rational number that a JSON number is. -/
def Json.Number.value? : Json.Number → Option ℚ
  | .int n => some n
  | .real x => x.value?

/-- The whole number that a value denotes: a number denotes its value where that is whole, a text
the numeral that it is, which blanks may surround. -/
inductive Json.Denotes : Json → Int → Prop
  | number {x : Json.Number} {n : Int} (h : x.value? = some (n : ℚ)) : Denotes (.number x) n
  | string {s : String} {n : Int} (h : Number.IsNumeral (Text.trim s.toList) n) :
    Denotes (.string s) n

namespace Batch

def IsWord (n : Int) : Prop := -(Nat.pow 2 63 : Int) ≤ n ∧ n < Nat.pow 2 63

/-- A number beyond signed 64 bits, and the end of their range that is next to it. -/
inductive IsBeyond : Int → Int → Prop
  | below {m : Int} (h : m < -(Nat.pow 2 63 : Int)) : IsBeyond m (-(Nat.pow 2 63 : Int))
  | above {m : Int} (h : (Nat.pow 2 63 : Int) ≤ m) : IsBeyond m (Nat.pow 2 63 - 1)

/-- What a value is read as where an id is expected. -/
inductive ReadsAs : Json → Int → Prop
  | denoted {value : Json} {n : Int} (denotes : value.Denotes n) (fits : IsWord n) : ReadsAs value n
  | beyond {x : Json.Number} {m n : Int} (denotes : (Json.number x).Denotes m)
    (far : IsBeyond m n) :
      ReadsAs (.number x) n

theorem denotes_number_iff (x : Json.Number) (n : Int) :
    (Json.number x).Denotes n ↔ x.value? = some (n : ℚ) := by
  constructor
  · rintro ⟨h⟩
    exact h
  · exact .number

theorem denotes_string_iff (s : String) (n : Int) :
    (Json.string s).Denotes n ↔ Number.IsNumeral (Text.trim s.toList) n := by
  constructor
  · rintro ⟨⟩
    assumption
  · exact .string

/-- The nearest number of 64 bits is the number itself where it fits, and otherwise the end of
the range that it lies beyond. -/
theorem clampWord_eq_iff (m n : Int) : clampWord m = n ↔ m = n ∧ IsWord n ∨ IsBeyond m n := by
  have hpositive : 0 < Nat.pow 2 63 := by decide
  rw [clampWord, IsWord]
  constructor
  · intro h
    by_cases hlow : m < -(Nat.pow 2 63 : Int)
    · obtain rfl : n = -(Nat.pow 2 63 : Int) := by omega
      exact .inr (.below hlow)
    · by_cases hhigh : (Nat.pow 2 63 : Int) ≤ m
      · obtain rfl : n = Nat.pow 2 63 - 1 := by omega
        exact .inr (.above hhigh)
      · exact .inl (by omega)
  · rintro (⟨rfl, hlow, hhigh⟩ | hfar)
    · omega
    · cases hfar with
      | below h => omega
      | above h => omega

/-- A number is read as an id just where it denotes a whole number, and then as the nearest of 64
bits. A binary number is asked for its value, not for how it was spelled. -/
theorem idOfNumber_eq_some_iff (x : Json.Number) (n : Int) :
    idOfNumber x = some n ↔ ReadsAs (.number x) n := by
  have hclamped : idOfNumber x = some n ↔
      ∃ m : Int, x.value? = some (m : ℚ) ∧ clampWord m = n := by
    cases x with
    | int m => simp [idOfNumber, Json.Number.value?]
    | real y =>
      simp only [idOfNumber, Json.Number.value?, Option.map_eq_some_iff,
        Number.Double.toInt_eq_some_iff]
  rw [hclamped]
  constructor
  · rintro ⟨m, hvalue, hclamp⟩
    rcases (clampWord_eq_iff m n).mp hclamp with ⟨rfl, hfits⟩ | hfar
    · exact .denoted (.number hvalue) hfits
    · exact .beyond (.number hvalue) hfar
  · intro hreads
    cases hreads with
    | denoted hdenotes hfits =>
      exact ⟨n, (denotes_number_iff x n).mp hdenotes,
        (clampWord_eq_iff n n).mpr (.inl ⟨rfl, hfits⟩)⟩
    | beyond hdenotes hfar =>
      exact ⟨_, (denotes_number_iff x _).mp hdenotes, (clampWord_eq_iff _ n).mpr (.inr hfar)⟩

/-- A text is an id just where the number that it denotes fits. -/
theorem signed_trim_eq_some_iff (s : String) (n : Int) :
    Number.signed? (Text.trim s.toList) = some n ↔ ReadsAs (.string s) n := by
  rw [Number.signed_eq_some_iff]
  constructor
  · rintro ⟨hnumeral, hfits⟩
    exact .denoted (.string hnumeral) hfits
  · rintro ⟨hdenotes, hfits⟩
    exact ⟨(denotes_string_iff s n).mp hdenotes, hfits⟩

theorem idField_eq_some_iff (value : Json) (keys : List String) (n : Int) :
    idField value keys = some n ↔ ∃ v, firstField value keys = some v ∧ ReadsAs v n := by
  cases hfirst : firstField value keys with
  | none => simp [idField, hfirst]
  | some v =>
    have hother : ∀ w : Json, (∀ x, w ≠ .number x) → (∀ s, w ≠ .string s) → ¬ ReadsAs w n := by
      rintro w hnumber hstring (⟨⟨-⟩ | ⟨-⟩, -⟩ | -)
      · exact hnumber _ rfl
      · exact hstring _ rfl
      · exact hnumber _ rfl
    simp only [Option.some.injEq, exists_eq_left']
    cases v with
    | number x => simp only [idField, hfirst, idOfNumber_eq_some_iff]
    | string s => simp only [idField, hfirst, signed_trim_eq_some_iff]
    | null | bool _ | array _ | object _ => simp [idField, hfirst, hother]

inductive IdName
  | series
  | episode
  | movie
deriving DecidableEq

def IdName.key : IdName → String
  | .series => "seriesId"
  | .episode => "episodeId"
  | .movie => "movieId"

/-- Another key for the same id, which counts where the first is missing or null. -/
def IdName.alias : IdName → String
  | .series => "sonarrSeriesId"
  | .episode => "sonarrEpisodeId"
  | .movie => "radarrId"

def Item.id (item : Item) : IdName → Option Int
  | .series => item.seriesId
  | .episode => item.episodeId
  | .movie => item.movieId

end Batch

/-- The id under a name, of the ids that history keeps. -/
def Media.Ids.get (ids : Media.Ids) : Batch.IdName → Option Int
  | .series => ids.series
  | .episode => ids.episode
  | .movie => ids.movie

namespace Batch

theorem id_ofJson (value : Json) (name : IdName) :
    (Item.ofJson value).id name = idField value [name.key, name.alias] := by
  cases name <;> rfl

/-- The ids of a request are those of its item. -/
theorem id_of_request (item : Item) (raw : String) (request : Request)
    (h : item.request raw = .ok request) (name : IdName) (n : Int)
    (hn : request.media.historyIds.get name = some n) : item.id name = some n := by
  obtain ⟨type, source, target, media, -, -, -, hmedia, rfl⟩ :=
    (request_eq_ok_iff item raw request).mp h
  cases hmedia with
  | episode series hseries episode hepisode =>
    cases name with
    | series => exact series.trans hn
    | episode => exact episode.trans hn
    | movie => cases hn
  | movie movie hmovie =>
    cases name with
    | series => cases hn
    | episode => cases hn
    | movie => exact movie.trans hn

/-- The id that is read is the number that the first of its fields denotes, or the end of the
range that a number lies beyond; a request has no other ids than these. -/
theorem ids_are_denoted_or_ends (value : Json) :
    (∀ name n, (Item.ofJson value).id name = some n ↔
      ∃ v, firstField value [name.key, name.alias] = some v ∧ ReadsAs v n) ∧
    ∀ raw request, (Item.ofJson value).request raw = .ok request →
      ∀ name n, request.media.historyIds.get name = some n →
        (Item.ofJson value).id name = some n := by
  constructor
  · intro name n
    rw [id_ofJson, idField_eq_some_iff]
  · exact fun raw request h => id_of_request _ raw request h

/-- A text with blanks around it and a number with a point denote the ids of an episode. That of
a film is out of range, which the request does not see. -/
theorem ids_are_denoted_or_ends_episode :
    let value : Json :=
      .ofFields [("type", .string "episode"), ("seriesId", .string " -9223372036854775808 "),
      ("sonarrEpisodeId", .number (.real ⟨0x403e000000000000⟩)),
        ("movieId", .ofInt 9223372036854775808),
      ("sourceLanguage", .string "en"), ("targetLanguage", .string "fr")]
    let request := Request.make (.episode (-9223372036854775808) 30) "en" "fr" false false none
    (Item.ofJson value).request "" = .ok request ∧
      (Item.ofJson value).id .series = some (-9223372036854775808) ∧
      (Item.ofJson value).id .episode = some 30 ∧
      (Item.ofJson value).id .movie = some 9223372036854775807 := by
  intro value request
  have hrequest : (Item.ofJson value).request "" = .ok request := by decide +kernel
  obtain ⟨hids, hrequested⟩ := ids_are_denoted_or_ends value
  have hbeyond : ReadsAs (.ofInt 9223372036854775808) 9223372036854775807 :=
    .beyond (.number rfl) (.above (by decide))
  exact ⟨hrequest, hrequested "" request hrequest .series _ rfl,
    hrequested "" request hrequest .episode _ rfl, (hids .movie _).mpr ⟨_, rfl, hbeyond⟩⟩

/-- The number next after the largest id is taken for the largest id, and a request is made for
it. -/
theorem id_beyond_range_is_altered :
    let value : Json :=
      .ofFields [("type", .string "movie"), ("movieId", .ofInt 9223372036854775808),
      ("sourceLanguage", .string "en"), ("targetLanguage", .string "fr")]
    (Json.ofInt 9223372036854775808).Denotes 9223372036854775808 ∧
      ¬ (Json.ofInt 9223372036854775808).Denotes 9223372036854775807 ∧
      (Item.ofJson value).id .movie = some 9223372036854775807 ∧
      ((Item.ofJson value).request "").map (fun request => request.media) =
        .ok (.movie 9223372036854775807) := by
  refine ⟨.number rfl, fun hdenotes => ?_, by decide +kernel, by decide +kernel⟩
  have hvalue := (denotes_number_iff _ _).mp hdenotes
  rw [Json.Number.value?, Option.some.injEq, Int.cast_inj] at hvalue
  exact absurd hvalue (by decide)

end Batch

end Subtitling
