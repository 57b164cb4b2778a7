import Subtitling.Proofs.Files.AtomicWrite

/-!
A write does all that it is for, or nothing but for directories. Every stage of it shows the file
as it was or as it shall be: until the temporary file takes its place, nothing has changed but
the directories that were missing on the way to it, and the temporary file has a name that the
path cannot lead to. Where the write fails, whichever step it is, only such directories are left,
which are made one at a time.
-/

namespace Subtitling.Files

open Subtitling.Files.Tree

/-- Going up adds no name. -/
theorem mem_of_up (place : Location) (name : String) (h : name ∈ place.up) (hup : name ≠ "..") :
    name ∈ place := by
  rw [Location.up] at h
  split at h
  · rename_i hroot
    rw [hroot]
    exact h
  · split at h
    · rcases List.mem_append.mp h with hin | hdots
      · exact hin
      · exact absurd (List.mem_singleton.mp hdots) hup
    · exact (List.dropLast_prefix place).subset h

theorem mem_of_pieceLeads (start place : Location) (piece name : String)
    (h : pieceLeads start piece = .ok place) (hmem : name ∈ place) (hup : name ≠ "..") :
    name ∈ start ∨ name = piece := by
  rw [pieceLeads] at h
  split at h
  · obtain rfl := Except.ok.inj h
    exact .inl hmem
  · split at h
    · obtain rfl := Except.ok.inj h
      exact .inl (mem_of_up start name hmem hup)
    · split at h
      · cases h
      · obtain rfl := Except.ok.inj h
        exact (List.mem_append.mp hmem).imp_right List.mem_singleton.mp

/-- The names of a place that pieces lead to are among the pieces. -/
theorem mem_of_walk (t : Tree) (start place : Location) (pieces : List String) (name : String)
    (h : t.walk start pieces = .ok place) (hmem : name ∈ place) (hup : name ≠ "..") :
    name ∈ start ∨ name ∈ pieces := by
  induction pieces generalizing start with
  | nil =>
    obtain rfl := Except.ok.inj h
    exact .inl hmem
  | cons piece rest ih =>
    obtain ⟨-, next, hnext, hrest⟩ := (walk_cons_eq_ok_iff t start place piece rest).mp h
    rcases ih next hrest with hin | hin
    · rcases mem_of_pieceLeads start next piece name hnext hin hup with hstart | rfl
      · exact .inl hstart
      · exact .inr List.mem_cons_self
    · exact .inr (List.mem_cons_of_mem piece hin)

/-- A path leads to no place with a name that is longer than it. Each name of such a place is a
piece of the path, or one of what lies above the working directory, which are too short. -/
theorem not_mem_of_locate (t : Tree) (path name : String) (place : Location)
    (h : t.locate path = .ok place) (hlong : path.length < name.length) (htwo : 2 < name.length) :
    name ∉ place := by
  intro hmem
  obtain ⟨start, pieces, hstart, hwalk⟩ := (locate_eq_ok_iff t path place).mp h
  obtain ⟨-, -, -, hfound⟩ := (startPieces_eq_ok_iff path (start, pieces)).mp hstart
  obtain ⟨rfl, rfl⟩ := Prod.mk.inj hfound
  have hup : name ≠ ".." := by
    rintro rfl
    exact absurd htwo (by decide)
  rcases mem_of_walk t _ place _ name hwalk hmem hup with hstart | hpiece
  · have hroot : name = "/" := by
      split at hstart
      · exact List.mem_singleton.mp hstart
      · cases hstart
    rw [hroot] at htwo
    exact absurd htwo (by decide)
  · obtain ⟨cs, hcs, rfl⟩ := List.mem_map.mp hpiece
    have hlength := Text.length_le_of_mem_splitWhen _ path.toList cs hcs
    rw [String.length_toList] at hlength
    rw [String.length_ofList] at hlong
    omega

/-- But for the temporary file all is as it was, or the content has come where no directory was.
The stages are gone through one by one: the file is made, filled and moved, or taken away again.
-/
theorem lookup_of_mem_stages (faults : Faults) (t stage : Tree) (place : Location)
    (dir path : String) (content : List UInt8)
    (h : stage ∈ (writeInside faults t place dir path content).stages)
    (other : Location) (hother : other ≠ place ++ [freshName t place path]) :
    stage.lookup other = t.lookup other ∨
      (writeInside faults t place dir path content).result = .ok () ∧
        t.lookup other ≠ some .directory ∧ stage.lookup other = some (.file content) := by
  let temporary := place ++ [freshName t place path]
  let created := t.insert temporary (.file [])
  let filled := created.insert temporary (.file content)
  have hcreated : created.lookup other = t.lookup other :=
    lookup_insert_of_ne t temporary other _ hother
  have hfilled : filled.lookup other = t.lookup other :=
    (lookup_insert_of_ne created temporary other _ hother).trans hcreated
  have hcleared : (created.erase temporary).lookup other = t.lookup other :=
    (lookup_erase_of_ne created temporary other hother).trans hcreated
  have hemptied : (filled.erase temporary).lookup other = t.lookup other :=
    (lookup_erase_of_ne filled temporary other hother).trans hfilled
  rcases writeInside_cases faults t place dir path content with
    ⟨stages, e, hrun, hstages⟩ | ⟨spot, hrun, htarget, -⟩
  · have hamong : stage ∈ [created, filled, created.erase temporary, filled.erase temporary] := by
      rw [hrun] at h
      simp only [List.mem_cons, List.not_mem_nil, or_false] at hstages ⊢
      rcases hstages with rfl | rfl | rfl | rfl <;>
        simp only [List.mem_cons, List.not_mem_nil, or_false] at h <;> tauto
    simp only [List.mem_cons, List.not_mem_nil, or_false] at hamong
    rcases hamong with rfl | rfl | rfl | rfl
    · exact .inl hcreated
    · exact .inl hfilled
    · exact .inl hcleared
    · exact .inl hemptied
  · rw [hrun] at h ⊢
    simp only [List.mem_cons, List.not_mem_nil, or_false] at h
    rcases h with rfl | rfl | rfl
    · exact .inl hcreated
    · exact .inl hfilled
    · by_cases hspot : other = spot
      · subst hspot
        have hfree : filled.lookup other ≠ some .directory :=
          (locate_of_target filled path other htarget).2
        have hplaced := lookup_insert_self (filled.erase temporary) other (.file content)
          (not_isAbove_of_lookup filled other hfree)
        exact .inr ⟨rfl, hfilled ▸ hfree, hplaced⟩
      · exact .inl ((lookup_insert_of_ne _ spot other _ hspot).trans hemptied)

/-- No directory is lost at any stage. -/
theorem directoriesIn_of_mem_stages (faults : Faults) (t stage : Tree) (place : Location)
    (dir path : String) (content : List UInt8)
    (h : stage ∈ (writeInside faults t place dir path content).stages) : DirectoriesIn t stage := by
  intro other hdirectory
  have hother : other ≠ place ++ [freshName t place path] := by
    rintro rfl
    rw [lookup_freshName] at hdirectory
    cases hdirectory
  rcases lookup_of_mem_stages faults t stage place dir path content h other hother with
    hsame | ⟨-, hfree, -⟩
  · exact hsame.trans hdirectory
  · exact absurd hdirectory hfree

section
variable (faults : Faults) (t : Tree) (path : String) (content : List UInt8)

/-- A fault at any step makes a write fail. -/
theorem no_fault_of_writeAtomicWith (h : (writeAtomicWith faults t path content).result = .ok ())
    (step : WriteStep) : faults step = none := by
  rcases writeAtomicWith_cases faults t path content with
    ⟨stages, e, hrun, -⟩ | ⟨place, hrun, hmake⟩
  · rw [hrun] at h
    cases h
  · rw [hrun] at h
    rcases writeInside_cases faults _ place _ path content with
      ⟨stages, e, hinside, -⟩ | ⟨spot, -, -, hnone⟩
    · rw [hinside] at h
      cases h
    · by_cases hstep : step = .makeDirectory
      · rw [hstep, hmake]
      · exact hnone step hstep

/-- Where a write succeeds, its path leads to the content, and nothing else has changed on the
way. -/
theorem keptAlong_of_succeeded (h : (writeAtomicWith faults t path content).result = .ok ()) :
    ∃ spot, ((writeAtomicWith faults t path content).final t).locate path = .ok spot ∧
      ((writeAtomicWith faults t path content).final t).read path = .ok content ∧
      ∀ place, place ≠ spot →
        KeptAlong t ((writeAtomicWith faults t path content).final t) (Path.directory path)
          place := by
  have hmade := growsAlong_ensureDirectory t (Path.directory path)
  rcases writeAtomicWith_cases faults t path content with
    ⟨stages, e, hrun, -⟩ | ⟨inside, hrun, -⟩
  · rw [hrun] at h
    cases h
  · rw [hrun] at h ⊢
    obtain ⟨spot, hwritten, hsame⟩ := written_of_writeInside faults _ inside _ path content h
    rw [WriteRun.final] at hwritten hsame ⊢
    rw [List.getLastD_cons]
    exact ⟨spot, hwritten.located, hwritten.read, fun place hplace =>
      (hmade place).trans (.inl (hsame place hplace)) hwritten.directoriesIn⟩

/-- At every stage a place that the path leads to holds what it did or all of the content. While
directories are made it holds what it did, and from then on only the move can change it. -/
theorem keptAlong_of_mem_stages (stage seen : Tree) (place : Location)
    (hstage : stage ∈ (writeAtomicWith faults t path content).stages)
    (hplace : seen.locate path = .ok place) :
    KeptAlong t stage (Path.directory path) place ∨
      (writeAtomicWith faults t path content).result = .ok () ∧
        stage.lookup place = some (.file content) := by
  have hmade := growsAlong_ensureDirectory t (Path.directory path)
  rcases writeAtomicWith_cases faults t path content with
    ⟨stages, e, hrun, rfl | rfl⟩ | ⟨inside, hrun, -⟩
  · rw [hrun] at hstage
    cases hstage
  · rw [hrun] at hstage
    obtain rfl := List.mem_singleton.mp hstage
    exact .inl (hmade place)
  · rw [hrun] at hstage ⊢
    rcases List.mem_cons.mp hstage with rfl | hinside
    · exact .inl (hmade place)
    · let made := (ensureDirectory t (Path.directory path)).2
      have hlong := length_le_freshName made inside path
      have hother : place ≠ inside ++ [freshName made inside path] := by
        rintro rfl
        have hnot :=
          not_mem_of_locate seen path (freshName made inside path) _ hplace (by omega) (by omega)
        exact hnot (by simp)
      have hstay := directoriesIn_of_mem_stages faults made stage inside _ path content hinside
      rcases lookup_of_mem_stages faults made stage inside _ path content hinside place hother with
        hsame | ⟨hok, -, hnew⟩
      · exact .inl ((hmade place).trans (.inl hsame) hstay)
      · exact .inr ⟨hok, hnew⟩

/-- A write does all that it is for, or nothing but for missing directories that its path lies
in. It succeeds only if no step fails. Where it succeeds, the path leads to the content and all
else is as it was; where it fails, all is as it was and no temporary file is left; the
directories are made one at a time, so this is also so if it ends between two of them. At every
stage, what the path leads to, be it there or not, is as it was or holds all of the content. -/
theorem write_is_all_or_nothing :
    ((writeAtomicWith faults t path content).result = .ok () →
      (∀ step, faults step = none) ∧
      ∃ spot, ((writeAtomicWith faults t path content).final t).locate path = .ok spot ∧
        ((writeAtomicWith faults t path content).final t).read path = .ok content ∧
        ∀ place, place ≠ spot →
          KeptAlong t ((writeAtomicWith faults t path content).final t) (Path.directory path)
            place) ∧
    (∀ e, (writeAtomicWith faults t path content).result = .error e →
      GrowsAlong t ((writeAtomicWith faults t path content).final t) (Path.directory path)) ∧
    ((t.makings (Path.directory path)).getLastD t = (ensureDirectory t (Path.directory path)).2 ∧
      ∀ stage ∈ t.makings (Path.directory path), GrowsAlong t stage (Path.directory path)) ∧
    ∀ stage ∈ (writeAtomicWith faults t path content).stages, ∀ (seen : Tree) (place : Location),
      seen.locate path = .ok place →
        KeptAlong t stage (Path.directory path) place ∨
          (writeAtomicWith faults t path content).result = .ok () ∧
            stage.lookup place = some (.file content) := by
  refine ⟨fun hok => ⟨?_, ?_⟩, ?_, ⟨?_, fun stage hstage => ?_⟩,
    fun stage hstage seen place hplace => ?_⟩
  · exact no_fault_of_writeAtomicWith faults t path content hok
  · exact keptAlong_of_succeeded faults t path content hok
  · exact growsAlong_of_writeAtomicWith faults t path content
  · exact getLastD_makings t (Path.directory path)
  · exact growsAlong_of_mem_makings t stage (Path.directory path) hstage
  · exact keptAlong_of_mem_stages faults t path content stage seen place hstage hplace

end

/-- An old file is replaced. Where the move into its place fails, the new content has been in a file
of its own on the way, but that file is gone and the old one is as it was. -/
theorem write_is_all_or_nothing_replacing :
    let t : Tree := ⟨[(["old.srt"], .file [1])]⟩
    let broken : Faults := fun step =>
      if step = .move then some (.other "No space left on device (os error 28)") else none
    let run := writeAtomicWith Faults.none t "old.srt" [2]
    let failed := writeAtomicWith broken t "old.srt" [2]
    let e := WriteError.move "old.srt" (.other "No space left on device (os error 28)")
    (run.result = .ok () ∧ (run.final t).read "old.srt" = .ok [2]) ∧
      failed.result = .error e ∧
      (∃ stage ∈ failed.stages, ∃ entry ∈ stage.entries, entry.2 = .file [2]) ∧
      GrowsAlong t (failed.final t) (Path.directory "old.srt") ∧
      (failed.final t).lookup ["old.srt"] = some (.file [1]) := by
  intro t broken run failed e
  have hok : run.result = .ok () := by decide +kernel
  have hfails : failed.result = .error e := by decide +kernel
  obtain ⟨-, spot, -, hread, -⟩ := (write_is_all_or_nothing Faults.none t "old.srt" [2]).1 hok
  have hgrown := (write_is_all_or_nothing broken t "old.srt" [2]).2.1 e hfails
  refine ⟨⟨hok, hread⟩, hfails, by decide +kernel, hgrown, ?_⟩
  rcases hgrown ["old.srt"] with hsame | ⟨hnone, -⟩
  · exact hsame
  · cases hnone

end Subtitling.Files
