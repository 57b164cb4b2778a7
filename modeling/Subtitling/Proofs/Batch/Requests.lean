import Subtitling.Batch.Item

/-!
From an item to a request. An item makes a request just where its type and its languages are
present and the ids that its type needs are there; the request has these and the flags, and
nothing else of the item counts. The text that an item is quoted by shows in one kind of error
and nowhere else.
-/

namespace Subtitling.Batch

theorem presentId_eq_some_iff (id : Option Int) (n : Int) :
    presentId id = some n ↔ id = some n ∧ n ≠ 0 := by
  simp [presentId, Option.filter_eq_some_iff]

inductive HasMedia (item : Item) : String → Media.Ref → Prop
  | episode {seriesId episodeId : Int} (series : item.seriesId = some seriesId)
    (hseries : seriesId ≠ 0)
      (episode : item.episodeId = some episodeId) (hepisode : episodeId ≠ 0) :
      HasMedia item "episode" (.episode seriesId episodeId)
  | movie {movieId : Int} (movie : item.movieId = some movieId) (hmovie : movieId ≠ 0) :
      HasMedia item "movie" (.movie movieId)

section

variable (item : Item) (raw : String)

/-- An item has ids for the catalog just where its type names a kind and each id that this kind
needs is there and not zero. The id of the other kind is not looked at. -/
theorem media_eq_ok_iff (type : String) (ref : Media.Ref) :
    item.media type = .ok ref ↔ HasMedia item type ref := by
  constructor
  · intro h
    rw [Item.media] at h
    split at h
    · rename_i htype
      subst htype
      split at h
      · rename_i seriesId episodeId hseries hepisode
        obtain rfl := Except.ok.inj h
        rw [presentId_eq_some_iff] at hseries hepisode
        exact .episode hseries.1 hseries.2 hepisode.1 hepisode.2
      · cases h
    · split at h
      · rename_i htype
        subst htype
        split at h
        · rename_i movieId hmovie
          obtain rfl := Except.ok.inj h
          rw [presentId_eq_some_iff] at hmovie
          exact .movie hmovie.1 hmovie.2
        · cases h
      · cases h
  · intro h
    cases h with
    | episode series hseries episode hepisode =>
      have hseries := (presentId_eq_some_iff _ _).mpr ⟨series, hseries⟩
      have hepisode := (presentId_eq_some_iff _ _).mpr ⟨episode, hepisode⟩
      simp [Item.media, hseries, hepisode]
    | movie movie hmovie =>
      have hmovie := (presentId_eq_some_iff _ _).mpr ⟨movie, hmovie⟩
      simp [Item.media, hmovie]

/-- What an item that makes a request has, and the request that it makes. Its type, its languages
and the ids of its type have to be there; the flags and the source that it names are taken as
they are. -/
theorem request_eq_ok_iff (request : Request) : item.request raw = .ok request ↔
    ∃ type source target media, present item.type = some type ∧
      present item.sourceLanguage = some source ∧ present item.targetLanguage = some target ∧
      HasMedia item type media ∧
      request = .make media source target item.forced item.hi (present item.subtitlePath) := by
  rw [Item.request]
  constructor
  · intro h
    split at h
    · rename_i type source target htype hsource htarget
      cases hmedia : item.media type with
      | error e =>
        rw [hmedia] at h
        cases h
      | ok media =>
        rw [hmedia] at h
        obtain rfl := Except.ok.inj h
        exact ⟨type, source, target, media, htype, hsource, htarget,
          (media_eq_ok_iff item type media).mp hmedia, rfl⟩
    · cases h
  · rintro ⟨type, source, target, media, htype, hsource, htarget, hmedia, rfl⟩
    rw [htype, hsource, htarget]
    simp only [(media_eq_ok_iff item type media).mpr hmedia]
    rfl

def InvalidItem.kind : InvalidItem → InvalidItem
  | .missingFields _ => .missingFields ""
  | .invalidType type => .invalidType type
  | .missingIds names => .missingIds names

theorem request_mapError_kind (other : String) :
    (item.request raw).mapError InvalidItem.kind =
      (item.request other).mapError InvalidItem.kind := by
  rw [Item.request, Item.request]
  split <;> rfl

end

end Subtitling.Batch
