import Subtitling.Proofs.Work.WorkUnit

/-!
What a unit of work leaves behind when it fails. A source that is not read, a service that refuses
and a write that fails leave every file as it was and the history as it was. An entry that is not
recorded comes after all these, and what was written by then stays.
-/

namespace Subtitling.Work

section
variable (w : World) (around : Surroundings)

theorem World.translate_eq (task : Service.Task) : w.translate around task =
    ((around.backend task w.session).1,
      { w with session := (around.backend task w.session).2, tasks := w.tasks ++ [task] }) := rfl

theorem World.write_eq (path : String) (content : List UInt8) : w.write around path content =
    ((Files.writeAtomicWith around.diskFaults w.files path content).result,
      { w with
        files := (Files.writeAtomicWith around.diskFaults w.files path content).final w.files }) :=
  rfl

theorem World.record_eq_error (entry : Catalog.Entry) (reason : String) (tried : World)
    (h : w.record around entry = (.error reason, tried)) :
    tried = { w with recordings := w.recordings + 1 } := by
  rw [World.record] at h
  split at h
  · exact (Prod.mk.inj h).2.symm
  · cases (Prod.mk.inj h).1

end

namespace WorkUnit

section
variable (u : WorkUnit) (around : Surroundings) (w : World)

/-- How the steps of a unit can end, each way with what was done before it. -/
inductive Ending : Except Error Unit → World → Prop
  | unread {e : Subtitle.LoadError} (load : Subtitle.Track.load w.files u.sourcePath = .error e) :
      Ending (.error (.source u.sourcePath e.message)) w
  | silent {track : Subtitle.Track} (load : u.load w.files = .ok track) (empty : track.cues = []) :
      Ending (.ok ()) w
  | refused {track : Subtitle.Track} {e : Service.Error} {asked : World}
      (load : u.load w.files = .ok track) (cues : track.cues ≠ [])
      (answer : w.translate around (u.task track) = (.error e, asked)) :
      Ending (.error (.service e)) asked
  | unwritten {track : Subtitle.Track} {lines : List Subtitle.Line} {asked written : World}
      {e : Files.WriteError} (load : u.load w.files = .ok track) (cues : track.cues ≠ [])
      (answer : w.translate around (u.task track) = (.ok lines, asked))
      (write : asked.write around u.destination (content track lines) = (.error e, written)) :
      Ending (.error (.persist u.destination e.message)) (written.message
        ("Translation failed: Unable to save translated subtitles to " ++ u.destination))
  | unrecorded {track : Subtitle.Track} {lines : List Subtitle.Line} {asked written tried : World}
      {reason : String} (load : u.load w.files = .ok track) (cues : track.cues ≠ [])
      (answer : w.translate around (u.task track) = (.ok lines, asked))
      (write : asked.write around u.destination (content track lines) = (.ok (), written))
      (record : written.record around (u.entry around.now) = (.error reason, tried)) :
      Ending (.error (.history reason)) tried
  | done {track : Subtitle.Track} {lines : List Subtitle.Line} {asked written recorded : World}
      (load : u.load w.files = .ok track) (cues : track.cues ≠ [])
      (answer : w.translate around (u.task track) = (.ok lines, asked))
      (write : asked.write around u.destination (content track lines) = (.ok (), written))
      (record : written.record around (u.entry around.now) = (.ok (), recorded)) :
      Ending (.ok ()) recorded

/-- Where a unit can end, part by part: before it wrote, after it wrote but before it was
recorded, or with its row in the history. -/
theorem ending_steps : u.Ending around w (u.steps around w).1 (u.steps around w).2 := by
  rw [steps]
  cases htrack : Subtitle.Track.load w.files u.sourcePath with
  | error e =>
    have hload : u.load w.files = .error (.source u.sourcePath e.message) := by simp [load, htrack]
    rw [hload]
    exact .unread htrack
  | ok track =>
    have hload : u.load w.files = .ok track := by simp [load, htrack]
    rw [hload]
    cases hempty : track.cues.isEmpty with
    | true =>
      simp only [hempty, if_true]
      exact .silent hload (List.isEmpty_iff.mp hempty)
    | false =>
      simp only [hempty, Bool.false_eq_true, if_false, finish]
      have hcues : track.cues ≠ [] := by simpa using hempty
      cases hanswer : w.translate around (u.task track) with
      | mk answer asked =>
        cases answer with
        | error e => exact .refused hload hcues hanswer
        | ok lines =>
          simp only [write]
          cases hwrite : asked.write around u.destination (content track lines) with
          | mk result written =>
            cases result with
            | error e => exact .unwritten hload hcues hanswer hwrite
            | ok _ =>
              simp only [record]
              cases hrecord : written.record around (u.entry around.now) with
              | mk result tried =>
                cases result with
                | error reason => exact .unrecorded hload hcues hanswer hwrite hrecord
                | ok _ => exact .done hload hcues hanswer hwrite hrecord

/-- Telling of a failure changes neither files nor the store. -/
theorem run_eq_error (e : Error) (final : World) (h : u.run around w = (.error e, final)) :
    (u.steps around w).1 = .error e ∧ final.files = (u.steps around w).2.files ∧
      final.store = (u.steps around w).2.store := by
  rw [run] at h
  cases hsteps : u.steps around w with
  | mk result reached =>
    rw [hsteps] at h
    cases result with
    | ok _ => cases (Prod.mk.inj h).1
    | error cause =>
      obtain ⟨hcause, rfl⟩ := Prod.mk.inj h
      obtain rfl := Except.error.inj hcause
      exact ⟨rfl, rfl, rfl⟩

/-- A unit that fails has added nothing to the history. Where recording was not what failed, all
files are as they were, and at most directories were made where nothing was; where it was, the
result has been written and stays. -/
theorem run_failure_leaves (e : Error) (final : World) (h : u.run around w = (.error e, final)) :
    final.store = w.store ∧
      ((∀ reason, e ≠ .history reason) → Files.Tree.GrowsTo w.files final.files) ∧
      ∀ reason, e = .history reason → ∃ track lines spot, u.load w.files = .ok track ∧
        (around.backend (u.task track) w.session).1 = .ok lines ∧
        Files.Written w.files final.files u.destination (content track lines) spot := by
  obtain ⟨hfailed, hfiles, hstore⟩ := u.run_eq_error around w e final h
  have hending := u.ending_steps around w
  rw [hfailed] at hending
  rw [hfiles, hstore]
  generalize (u.steps around w).2 = reached at hending
  cases hending with
  | unread load =>
    refine ⟨rfl, fun _ => Files.Tree.GrowsTo.refl w.files, ?_⟩
    intro reason hreason
    cases hreason
  | refused load cues answer =>
    obtain ⟨-, rfl⟩ := Prod.mk.inj ((w.translate_eq around _).symm.trans answer)
    refine ⟨rfl, fun _ => Files.Tree.GrowsTo.refl w.files, ?_⟩
    intro reason hreason
    cases hreason
  | unwritten load cues answer write =>
    obtain ⟨-, rfl⟩ := Prod.mk.inj ((w.translate_eq around _).symm.trans answer)
    rw [World.write_eq] at write
    obtain ⟨hresult, rfl⟩ := Prod.mk.inj write
    refine ⟨rfl, fun _ => Files.growsTo_of_writeAtomicWith _ _ _ _ _ hresult, ?_⟩
    intro reason hreason
    cases hreason
  | unrecorded load cues answer write record =>
    obtain rfl := World.record_eq_error _ around _ _ _ record
    obtain ⟨hanswer, rfl⟩ := Prod.mk.inj ((w.translate_eq around _).symm.trans answer)
    rw [World.write_eq] at write
    obtain ⟨hresult, rfl⟩ := Prod.mk.inj write
    obtain ⟨spot, hwritten⟩ := Files.written_of_writeAtomicWith _ _ _ _ hresult
    refine ⟨rfl, fun hother => absurd rfl (hother _), ?_⟩
    intro reason _
    exact ⟨_, _, spot, load, hanswer, hwritten⟩

end

/-- The disk refuses the move, and the old file stays. -/
theorem run_failure_leaves_old_file :
    let u : WorkUnit := ⟨Request.make (.movie 7) "en" "fr" false false none, "Film.en.srt",
      ⟨.movie, 7, "Film", "Film.mkv", []⟩, ⟨"", "m", ⟨0⟩, 1, .disabled⟩⟩
    let bytes := "1\n00:00:01,000 --> 00:00:04,500\nHello\n".toUTF8.toList
    let around : Surroundings := ⟨fun _ s => (.ok [⟨0, "Salut"⟩], s), fun _ => none, none,
      fun step => if step = .move then some (.other "No space left on device (os error 28)") else
        none,
      "now"⟩
    let w :=
      World.start ⟨[(["Film.en.srt"], .file bytes), (["Film.fr.srt"], .file [1])]⟩ .empty false
    let e := Error.persist "Film.fr.srt"
      "Failed to move temp file to \"Film.fr.srt\": No space left on device (os error 28)"
    let final := (u.run around w).2
    u.run around w = (.error e, final) ∧ final.store = w.store ∧
      final.files.lookup ["Film.fr.srt"] = some (.file [1]) := by
  intro u bytes around w e final
  have hfails : (u.run around w).1 = .error e := by decide +kernel
  have hrun : u.run around w = (.error e, final) := Prod.ext hfails rfl
  obtain ⟨hstore, hfiles, -⟩ := u.run_failure_leaves around w e final hrun
  have hother : ∀ reason, e ≠ .history reason := by simp [e]
  have hgrown := hfiles hother ["Film.fr.srt"]
  refine ⟨hrun, hstore, ?_⟩
  rcases hgrown with hsame | ⟨hnone, -⟩
  · rw [hsame]
    rfl
  · cases hnone

/-- The history refuses the entry, and the file that was not there before is there. -/
theorem run_leaves_unrecorded_file :
    let u : WorkUnit := ⟨Request.make (.movie 7) "en" "fr" false false none, "Film.en.srt",
      ⟨.movie, 7, "Film", "Film.mkv", []⟩, ⟨"", "m", ⟨0⟩, 1, .disabled⟩⟩
    let bytes := "1\n00:00:01,000 --> 00:00:04,500\nHello\n".toUTF8.toList
    let around : Surroundings := ⟨fun _ s => (.ok [⟨0, "Salut"⟩], s),
      fun _ => some "history offline: disk full", none, Files.Faults.none, "now"⟩
    let w := World.start ⟨[(["Film.en.srt"], .file bytes)]⟩ .empty false
    let text := "1\n00:00:01,000 --> 00:00:04,500\nSalut\n\n" ++
      "2\n00:00:05,500 --> 00:00:10,500\n" ++ marker ++ "\n\n"
    (u.run around w).1 = .error (.history "history offline: disk full") ∧
      u.destination = "Film.fr.srt" ∧ w.files.read "Film.fr.srt" = .error .notFound ∧
      (u.run around w).2.files.read "Film.fr.srt" = .ok (Text.Utf8.encode text.toList) := by
  decide +kernel

end WorkUnit

end Subtitling.Work
