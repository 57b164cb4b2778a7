import Subtitling.Proofs.Files.AtomicWrite
import Subtitling.Proofs.Subtitle.Splice
import Subtitling.Proofs.Subtitle.Times
import Subtitling.Work.WorkUnit

/-!
What a unit of work leaves behind when every step succeeds. The backend is asked once, for the plain
texts of the cues in their order; the file beside the video holds the cues with what was translated,
and a last cue behind them; and the history has one entry more. A source without cues leaves no
trace.
-/

namespace Subtitling.Work

open Subtitle (Cue Line Track)

/-- A cue that ends no earlier than any of some cues. -/
def IsLatest (cues : List Cue) (last : Cue) : Prop := last ∈ cues ∧ ∀ c ∈ cues, c.stop ≤ last.stop

theorem exists_isLatest (cues : List Cue) (h : cues ≠ []) : ∃ last, IsLatest cues last := by
  have hne : cues.map Cue.stop ≠ [] := by simpa using h
  obtain ⟨latest, hlatest⟩ := Option.isSome_iff_exists.mp (List.isSome_max?_of_ne_nil hne)
  obtain ⟨hmem, hall⟩ := List.max?_eq_some_iff.mp hlatest
  obtain ⟨last, hlast, rfl⟩ := List.mem_map.mp hmem
  exact ⟨last, hlast, fun c hc => hall c.stop (List.mem_map_of_mem hc)⟩

theorem lastStop_eq_some (t : Track) (last : Cue) (h : IsLatest t.cues last) :
    t.lastStop? = some last.stop := by
  rw [Track.lastStop?, List.max?_eq_some_iff]
  refine ⟨List.mem_map_of_mem h.1, fun stop hstop => ?_⟩
  obtain ⟨c, hc, rfl⟩ := List.mem_map.mp hstop
  exact h.2 c hc

theorem marker_eq (t : Track) (latest : Nat) (text : String) (hstop : t.lastStop? = some latest) :
    t.marker text = ⟨t.cues.length + 1, latest + 1000, latest + 1000 + 5000, text⟩ := by
  simp only [Track.marker, hstop]

/-- The cues of a translation: each with the text of the last line for it, and a last one that
starts a second after the latest end and lasts for five. -/
def translated (cues : List Cue) (lines : List Line) (latest : Nat) : List Cue :=
  (cues.mapIdx fun i c => c.spliced lines i) ++
    [⟨cues.length + 1, latest + 1000, latest + 1000 + 5000, WorkUnit.marker⟩]

/-- The cues that the bytes of a file stand for, in whatever encoding they are. -/
def cuesIn (bytes : List UInt8) : List Cue := Subtitle.Srt.parse (Encoding.decode bytes).1

theorem stop_spliced (c : Cue) (lines : List Line) (i : Nat) :
    (c.spliced lines i).stop = c.stop := by
  rw [Cue.spliced]
  split <;> rfl

theorem map_stop_mapIdx_spliced (cues : List Cue) (lines : List Line) :
    (cues.mapIdx fun i c => c.spliced lines i).map Cue.stop = cues.map Cue.stop := by
  apply List.ext_getElem?
  intro i
  cases h : cues[i]? <;> simp [h, stop_spliced]

/-- The times of a file are far from the end of the words that hold them, so that its last cue
never overflows. -/
theorem appendMarker_of_parse (t : Track) (cs : List Char) (hcues : t.cues = Subtitle.Srt.parse cs)
    (lines : List Line) (text : String) :
    (t.splice lines).appendMarker? text = some ((t.splice lines).appendMarker text) := by
  have hstops : (t.splice lines).lastStop? = t.lastStop? := by
    rw [Track.lastStop?, t.cues_splice lines, map_stop_mapIdx_spliced, Track.lastStop?]
  apply if_pos
  cases hlast : t.lastStop? with
  | none => simp [Track.marker, hstops, hlast]
  | some latest =>
    obtain ⟨last, hmem, rfl⟩ := List.mem_map.mp (List.max?_eq_some_iff.mp hlast).1
    have hearly := (Subtitle.Srt.areEarly_of_mem_parse cs last (hcues ▸ hmem)).2
    rw [marker_eq _ last.stop _ (hstops.trans hlast)]
    exact Subtitle.Srt.lt_word_of_le _ (by simpa [Nat.add_assoc] using hearly)

namespace WorkUnit

def question (u : WorkUnit) (cues : List Cue) : Service.Task :=
  ⟨cues.map Cue.plainText, u.metadata, u.settings, u.progressId⟩

def row (u : WorkUnit) (id : Nat) (now : String) : Catalog.Row :=
  ⟨id, u.request.kind.name, u.request.media.historyIds, Catalog.Action.translated.code,
    u.request.targetTag, u.request.source, u.request.target, u.description, u.media.videoPath,
    u.destination, now⟩

/-- What a unit leaves of a world when everything succeeds: the files that were written and the
session of the backend, one question more, and one row more. -/
def after (u : WorkUnit) (around : Surroundings) (w : World) (cues : List Cue) (files : Files.Tree)
    (session : Service.Session) : World where
  files := files
  store := { w.store with history := u.row w.store.nextId around.now :: w.store.history }
  session := session
  tasks := w.tasks ++ [u.question cues]
  recordings := w.recordings + 1

section
variable (u : WorkUnit) (around : Surroundings) (w : World) (bytes : List UInt8)
  (hread : w.files.read u.sourcePath = .ok bytes)
include hread

theorem load_eq_ok : u.load w.files = .ok ⟨u.sourcePath, cuesIn bytes⟩ := by
  simp only [load, Track.load, hread, cuesIn]

end

end WorkUnit

end Subtitling.Work
