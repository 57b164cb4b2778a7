import Subtitling.Proofs.Work.Failure

/-!
What a unit of work does to the history, to the backend and to the files. The history gets one
entry more when the unit ends well and its source has a cue; in every other case it is as it was,
however far the unit came. One file is written or none, and every file that was there keeps its
content, except one that the destination leads to, which gets the content that is written. The
source is no exception.
-/

namespace Subtitling.Work

theorem World.record_eq_ok (w : World) (around : Surroundings) (entry : Catalog.Entry)
    (recorded : World) (h : w.record around entry = (.ok (), recorded)) :
    recorded = { w with recordings := w.recordings + 1, store := w.store.addEntry entry } := by
  rw [World.record] at h
  split at h
  · cases (Prod.mk.inj h).1
  · exact (Prod.mk.inj h).2.symm

namespace WorkUnit

section

variable (u : WorkUnit) (around : Surroundings) (w : World)

def hasCue (files : Files.Tree) : Bool :=
  match files.read u.sourcePath with
  | .ok bytes => !(cuesIn bytes).isEmpty
  | .error _ => false

/-- The content that a unit writes, if it comes to writing: its source has a cue, the backend
answers lines, and the disk takes them. -/
def produced? : Option (List UInt8) :=
  match u.load w.files with
  | .error _ => none
  | .ok track =>
    if track.cues.isEmpty then none
    else
      match (around.backend (u.task track) w.session).1 with
      | .error _ => none
      | .ok lines =>
        match (Files.writeAtomicWith around.diskFaults w.files u.destination
          (content track lines)).result with
        | .error _ => none
        | .ok () => some (content track lines)

/-- What a unit does in a world, given whether it ends well. It makes directories at most where
it writes nothing, and else it changes what is at its destination and nothing else. -/
structure Effects (well : Bool) (left : World) : Prop where
  store : left.store = if well && u.hasCue w.files then w.store.addEntry (u.entry around.now) else
    w.store
  tasks : ∀ track, u.load w.files = .ok track → track.cues ≠ [] →
    left.tasks = w.tasks ++ [u.task track]
  files : match u.produced? around w with
    | none => Files.Tree.GrowsTo w.files left.files
    | some written => ∃ spot, Files.Written w.files left.files u.destination written spot

theorem exists_read_of_load (track : Subtitle.Track) (h : u.load w.files = .ok track) :
    ∃ bytes, w.files.read u.sourcePath = .ok bytes ∧ track.cues = cuesIn bytes := by
  cases hread : w.files.read u.sourcePath with
  | error e => simp [load, Subtitle.Track.load, hread] at h
  | ok bytes =>
    rw [u.load_eq_ok w bytes hread] at h
    obtain rfl := Except.ok.inj h
    exact ⟨bytes, rfl, rfl⟩

theorem hasCue_of_load (track : Subtitle.Track) (h : u.load w.files = .ok track) :
    u.hasCue w.files = !track.cues.isEmpty := by
  obtain ⟨bytes, hread, hcues⟩ := u.exists_read_of_load w track h
  rw [hasCue, hread, hcues]

theorem tasks_of_load {track : Subtitle.Track} (h : u.load w.files = .ok track) {left : World}
    (htasks : left.tasks = w.tasks ++ [u.task track]) (other : Subtitle.Track)
    (hother : u.load w.files = .ok other) : left.tasks = w.tasks ++ [u.task other] := by
  obtain rfl := Except.ok.inj (hother.symm.trans h)
  exact htasks

theorem produced?_of_error (track : Subtitle.Track) (e : Service.Error)
    (h : u.load w.files = .ok track) (hcues : track.cues ≠ [])
    (hanswer : (around.backend (u.task track) w.session).1 = .error e) :
    u.produced? around w = none := by
  simp only [produced?, h, List.isEmpty_eq_false_iff.mpr hcues, hanswer, Bool.false_eq_true,
    if_false]

/-- Where the backend answers lines, the disk decides. -/
theorem produced?_of_ok (track : Subtitle.Track) (lines : List Subtitle.Line)
    (h : u.load w.files = .ok track) (hcues : track.cues ≠ [])
    (hanswer : (around.backend (u.task track) w.session).1 = .ok lines) :
    u.produced? around w = (Files.writeAtomicWith around.diskFaults w.files u.destination
      (content track lines)).result.toOption.map fun _ => content track lines := by
  simp only [produced?, h, List.isEmpty_eq_false_iff.mpr hcues, hanswer, Bool.false_eq_true,
    if_false]
  cases (Files.writeAtomicWith around.diskFaults w.files u.destination
    (content track lines)).result <;> rfl

/-- All that a unit can do to a world, one case for each part that may fail. A failure leaves the
parts behind it undone, and only the last part touches the history. -/
theorem effects_steps : u.Effects around w (u.steps around w).1.isOk (u.steps around w).2 := by
  have hending := u.ending_steps around w
  generalize (u.steps around w).1 = result at hending ⊢
  generalize (u.steps around w).2 = reached at hending ⊢
  cases hending with
  | @unread e load =>
    have hload : u.load w.files = .error (.source u.sourcePath e.message) := by
      simp only [WorkUnit.load, load]
    refine ⟨rfl, ?_, ?_⟩
    · intro track htrack
      rw [hload] at htrack
      cases htrack
    · simp only [produced?, hload]
      exact .refl w.files
  | @silent track load empty =>
    have hsilent := u.hasCue_of_load w track load
    rw [empty] at hsilent
    refine ⟨by rw [hsilent]; rfl, ?_, ?_⟩
    · intro other hother hcues
      obtain rfl := Except.ok.inj (hother.symm.trans load)
      exact absurd empty hcues
    · simp only [produced?, load, empty, List.isEmpty_nil, if_true]
      exact .refl w.files
  | refused load cues answer =>
    obtain ⟨hanswer, rfl⟩ := Prod.mk.inj ((w.translate_eq around _).symm.trans answer)
    refine ⟨rfl, fun other hother _ => u.tasks_of_load w load rfl other hother, ?_⟩
    rw [u.produced?_of_error around w _ _ load cues hanswer]
    exact .refl w.files
  | unwritten load cues answer write =>
    obtain ⟨hanswer, rfl⟩ := Prod.mk.inj ((w.translate_eq around _).symm.trans answer)
    obtain ⟨hresult, rfl⟩ := Prod.mk.inj ((World.write_eq _ around _ _).symm.trans write)
    refine ⟨rfl, fun other hother _ => u.tasks_of_load w load rfl other hother, ?_⟩
    rw [u.produced?_of_ok around w _ _ load cues hanswer, hresult]
    exact Files.growsTo_of_writeAtomicWith _ _ _ _ _ hresult
  | unrecorded load cues answer write record =>
    obtain rfl := World.record_eq_error _ around _ _ _ record
    obtain ⟨hanswer, rfl⟩ := Prod.mk.inj ((w.translate_eq around _).symm.trans answer)
    obtain ⟨hresult, rfl⟩ := Prod.mk.inj ((World.write_eq _ around _ _).symm.trans write)
    refine ⟨rfl, fun other hother _ => u.tasks_of_load w load rfl other hother, ?_⟩
    rw [u.produced?_of_ok around w _ _ load cues hanswer, hresult]
    exact Files.written_of_writeAtomicWith _ _ _ _ hresult
  | done load cues answer write record =>
    obtain rfl := World.record_eq_ok _ around _ _ record
    obtain ⟨hanswer, rfl⟩ := Prod.mk.inj ((w.translate_eq around _).symm.trans answer)
    obtain ⟨hresult, rfl⟩ := Prod.mk.inj ((World.write_eq _ around _ _).symm.trans write)
    have hcue := u.hasCue_of_load w _ load
    rw [List.isEmpty_eq_false_iff.mpr cues] at hcue
    refine ⟨by rw [hcue]; rfl, fun other hother _ => u.tasks_of_load w load rfl other hother, ?_⟩
    rw [u.produced?_of_ok around w _ _ load cues hanswer, hresult]
    exact Files.written_of_writeAtomicWith _ _ _ _ hresult

/-- Telling of a failure changes nothing that counts. -/
theorem effects_run : u.Effects around w (u.run around w).1.isOk (u.run around w).2 := by
  have heffects := u.effects_steps around w
  rw [run]
  generalize u.steps around w = after at heffects ⊢
  obtain ⟨result, reached⟩ := after
  cases result with
  | ok _ => exact heffects
  | error e => exact ⟨heffects.store, heffects.tasks, heffects.files⟩

/-- A path that could be read leads to the same place afterwards, and what it reads is another
content only when that is written there. -/
theorem read_run (path : String) (held : List UInt8) (h : w.files.read path = .ok held) :
    (u.run around w).2.files.read path =
      match u.produced? around w with
      | none => .ok held
      | some written =>
        if (u.run around w).2.files.locate u.destination = (u.run around w).2.files.locate path then
          .ok written
        else .ok held := by
  have hfiles := (u.effects_run around w).files
  generalize (u.run around w).2.files = left at hfiles ⊢
  cases hproduced : u.produced? around w with
  | none =>
    rw [hproduced] at hfiles
    exact Files.Tree.GrowsTo.read hfiles path held h
  | some written =>
    rw [hproduced] at hfiles
    obtain ⟨spot, hwritten⟩ := hfiles
    by_cases hsame : left.locate u.destination = left.locate path
    · exact (hwritten.read_same path hsame).trans (if_pos hsame).symm
    · refine (hwritten.read_other path held h ?_).trans (if_neg hsame).symm
      intro hspot
      have hstill := Files.Tree.locate_of_directoriesIn _ _ hwritten.directoriesIn path spot hspot
      exact hsame (hwritten.located.trans hstill.symm)

/-- Without a source that can be read everything stays as it was. -/
theorem files_of_unread (e : Files.OsError) (h : w.files.read u.sourcePath = .error e) :
    u.produced? around w = none ∧ (u.run around w).2.files = w.files := by
  obtain ⟨reason, hload⟩ : ∃ reason, u.load w.files = .error reason := by
    simp [load, Subtitle.Track.load, h]
  constructor
  · simp only [produced?, hload]
  · simp only [run, steps, hload]
    rfl

/-- The source of a unit is no exception. -/
theorem read_source :
    (u.run around w).2.files.read u.sourcePath =
      match u.produced? around w with
      | none => w.files.read u.sourcePath
      | some written =>
        if (u.run around w).2.files.locate u.destination =
          (u.run around w).2.files.locate u.sourcePath then .ok written
        else w.files.read u.sourcePath := by
  cases hread : w.files.read u.sourcePath with
  | ok held => exact u.read_run around w u.sourcePath held hread
  | error e =>
    obtain ⟨hproduced, hleft⟩ := u.files_of_unread around w e hread
    rw [hproduced, hleft, hread]

end

end WorkUnit

end Subtitling.Work
