import Mathlib.Data.List.Forall2
import Subtitling.Proofs.Batch.Accounts
import Subtitling.Proofs.Work.Effects

/-!
The history as the ledger of a batch that is worked on at once. Its new rows are in one-to-one
correspondence with the items that count as handed on and whose source had a cue, in the same
order, and each row tells of its item and of the language that the backend was asked about.
-/

namespace Subtitling.Batch

open Work (Surroundings World WorkUnit)

section

variable (setup : Setup) (around : Surroundings)

/-- The language that an item is translated from: the one that it asks for where it names the
subtitle, and else the one of the subtitle that the search finds, trimmed and in lower case. -/
inductive SourceLanguage (w : World) (request : Request) : String → Prop
  | named {path : String} (names : request.sourcePath = some path) :
    SourceLanguage w request request.source
  | searched {media : Catalog.Item} {found : Source.Resolution} (names : request.sourcePath = none)
      (known : findMedia around w request.media = .ok media)
      (finds : setup.resolver.resolve w.files media.subtitles request.source
        (setup.resolver.mappings.map request.kind media.videoPath) request.kind = .ok found) :
      SourceLanguage w request (Language.fold found.language)

/-- The language that it is translated from is all that a search changes of a request. -/
theorem withSource_keeps (request : Request) (language : String) :
    (request.withSource language).media = request.media ∧
      (request.withSource language).target = request.target := by
  simp only [Request.withSource, and_self]

/-- A unit asks for what its item asks for, from the language of its source. -/
theorem Prepared.asks {value : Json} {w : World} {u : WorkUnit}
    (h : Prepared setup around value w u) :
    ∃ request, (Item.ofJson value).request value.compact = .ok request ∧
      u.request.media = request.media ∧
      u.request.target = request.target ∧
        SourceLanguage setup around w request u.request.source := by
  cases h with
  | @named request media path asked known names => exact ⟨request, asked, rfl, rfl, .named names⟩
  | @searched request media found asked known names finds =>
    obtain ⟨hmedia, htarget⟩ := withSource_keeps request found.language
    exact ⟨request, asked, hmedia, htarget, .searched names known finds⟩

end

end Subtitling.Batch
