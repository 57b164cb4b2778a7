import Subtitling.Files.AtomicWrite
import Subtitling.Proofs.Files.Growth
import Subtitling.Proofs.Files.Listing

/-!
What a write leaves behind. The temporary file has a name that nothing in its directory had, so
putting it there hides nothing and taking it away loses nothing; what is left of a write that
succeeds is the new file where its path leads, and the directories that were missing. A write that
fails leaves no more than such directories.
-/

namespace Subtitling.Files

open Subtitling.Files.Tree

theorem start_le_foldl_max {α : Type} (size : α → Nat) (xs : List α) (n : Nat) :
    n ≤ xs.foldl (fun n y => max n (size y)) n := by
  induction xs generalizing n with
  | nil => exact Nat.le_refl n
  | cons y rest ih => exact Nat.le_trans (Nat.le_max_left n (size y)) (ih _)

theorem le_foldl_max {α : Type} (size : α → Nat) (xs : List α) (n : Nat) (x : α) (h : x ∈ xs) :
    size x ≤ xs.foldl (fun n y => max n (size y)) n := by
  induction xs generalizing n with
  | nil => cases h
  | cons y rest ih =>
    rcases List.mem_cons.mp h with rfl | hrest
    · exact Nat.le_trans (Nat.le_max_right n (size x)) (start_le_foldl_max size rest _)
    · exact ih _ hrest

theorem not_isAbove_append (place : Location) (name : String) (h : 2 < name.length) :
    Location.isAbove (place ++ [name]) = false := by
  refine isAbove_append place name ?_ ?_
  · rintro rfl
    exact absurd h (by decide)
  · rintro rfl
    exact absurd h (by decide)

theorem length_freshName (t : Tree) (place : Location) (path : String) :
    (freshName t place path).length =
      4 + (t.children place).foldl (fun n child => max n child.1.length) path.length := by
  have htmp : ".tmp".length = 4 := rfl
  simp only [freshName, String.length_append, String.length_ofList, List.length_replicate, htmp]

/-- The name of the temporary file is longer than the path. -/
theorem length_le_freshName (t : Tree) (place : Location) (path : String) :
    4 + path.length ≤ (freshName t place path).length := by
  rw [length_freshName]
  exact Nat.add_le_add_left (start_le_foldl_max (fun child : String × Entry => child.1.length) _ _)
    4

/-- Nothing has the name of the temporary file. -/
theorem lookup_freshName (t : Tree) (place : Location) (path : String) :
    t.lookup (place ++ [freshName t place path]) = none := by
  have hlength := length_freshName t place path
  have habove := not_isAbove_append place (freshName t place path) (by omega)
  rw [lookup, habove]
  cases hlookup : t.entries.lookup (place ++ [freshName t place path]) with
  | none => rfl
  | some entry =>
    obtain ⟨before, after, hentries, -⟩ := List.lookup_eq_some_iff.mp hlookup
    have hmem :=
      (mem_children_iff place (freshName t place path) entry).mpr (by rw [hentries]; simp)
    have hlong := le_foldl_max (fun child : String × Entry => child.1.length) _ path.length _ hmem
    simp only at hlong
    omega

/-- Taking the temporary file away leaves all as it was before the file was there. -/
theorem lookup_erase_temporary (t written : Tree) (temporary other : Location)
    (hfresh : t.lookup temporary = none)
    (hsame : ∀ place, place ≠ temporary → written.lookup place = t.lookup place) :
    (written.erase temporary).lookup other = t.lookup other := by
  have htemporary := not_isAbove_of_lookup t temporary (by simp [hfresh])
  by_cases h : other = temporary
  · rw [h, lookup_erase_self written temporary htemporary, hfresh]
  · rw [lookup_erase_of_ne written temporary other h, hsame other h]

/-- The temporary file is taken away, or it goes to where the path leads. -/
theorem moveTemporary_cases (faults : Faults) (path : String) (content : List UInt8)
    (temporary : Location) (filled : Tree) :
    (∃ e, moveTemporary faults path content temporary filled =
      ⟨[filled.erase temporary], .error (.move path e)⟩) ∨
    ∃ spot, moveTemporary faults path content temporary filled =
        ⟨[(filled.erase temporary).insert spot (.file content)], .ok ()⟩ ∧
      filled.target path = .ok spot ∧ faults .move = none := by
  cases hmove : faults .move with
  | some e => exact .inl ⟨e, by simp only [moveTemporary, hmove]⟩
  | none =>
    cases htarget : filled.target path with
    | error e => exact .inl ⟨e, by simp only [moveTemporary, hmove, htarget]⟩
    | ok spot => exact .inr ⟨spot, by simp only [moveTemporary, hmove, htarget], rfl, rfl⟩

/-- The stages of a write in a directory that is there: it is stopped, and the temporary file is
taken away if there is one, or no fault keeps the file from its place. -/
theorem writeInside_cases (faults : Faults) (t : Tree) (place : Location) (dir path : String)
    (content : List UInt8) :
    let temporary := place ++ [freshName t place path]
    let created := t.insert temporary (.file [])
    let filled := created.insert temporary (.file content)
    (∃ stages e, writeInside faults t place dir path content = ⟨stages, .error e⟩ ∧
      stages ∈ [[], [created, created.erase temporary], [created, filled, created.erase temporary],
        [created, filled, filled.erase temporary]]) ∨
    ∃ spot, writeInside faults t place dir path content =
        ⟨[created, filled, (filled.erase temporary).insert spot (.file content)], .ok ()⟩ ∧
      filled.target path = .ok spot ∧ ∀ step, step ≠ .makeDirectory → faults step = none := by
  intro temporary created filled
  cases hcreate : faults .createTemporary with
  | some e =>
    refine .inl ⟨[], .createTemporary dir e, ?_, by simp⟩
    simp only [writeInside, hcreate]
  | none =>
    cases hfill : faults .fill with
    | some e =>
      refine .inl ⟨[created, created.erase temporary], .fill path e, ?_, by simp⟩
      simp only [writeInside, hcreate, hfill]
      rfl
    | none =>
      cases hflush : faults .flush with
      | some e =>
        refine .inl ⟨[created, filled, created.erase temporary], .flush path e, ?_, by simp⟩
        simp only [writeInside, hcreate, hfill, hflush]
        rfl
      | none =>
        have hrun : writeInside faults t place dir path content =
            ⟨[created, filled] ++ (moveTemporary faults path content temporary filled).stages,
              (moveTemporary faults path content temporary filled).result⟩ := by
          simp only [writeInside, hcreate, hfill, hflush]
          rfl
        rcases moveTemporary_cases faults path content temporary filled with
          ⟨e, hmoved⟩ | ⟨spot, hmoved, htarget, hmove⟩
        · refine .inl ⟨[created, filled, filled.erase temporary], .move path e, ?_, by simp⟩
          rw [hrun, hmoved]
          rfl
        · refine .inr ⟨spot, ?_, htarget, fun step hstep => ?_⟩
          · rw [hrun, hmoved]
            rfl
          · cases step with
            | makeDirectory => exact absurd rfl hstep
            | createTemporary => exact hcreate
            | fill => exact hfill
            | flush => exact hflush
            | move => exact hmove

/-- What is left is the last tree that the making of the directory passes through. -/
theorem getLastD_makings (t : Tree) (path : String) :
    (t.makings path).getLastD t = (ensureDirectory t path).2 := by
  rw [makings, ensureDirectory]
  split
  · rfl
  · have hlast := getLastD_makingsWithin t (path.length + 1) path
    rw [← makeDirectories] at hlast
    split <;> rename_i hresult <;> rw [hresult] at hlast <;> exact hlast

theorem growsAlong_ensureDirectory (t : Tree) (path : String) :
    GrowsAlong t (ensureDirectory t path).2 path := by
  rw [← getLastD_makings]
  exact growsAlong_getLastD t _ path fun stage hstage =>
    growsAlong_of_mem_makings t stage path hstage

theorem growsTo_ensureDirectory (t : Tree) (path : String) : GrowsTo t (ensureDirectory t path).2 :=
  (growsAlong_ensureDirectory t path).growsTo

/-- The stages of a write: it is over once the directories have been made, or before, or it goes
on in the directory that its path lies in. -/
theorem writeAtomicWith_cases (faults : Faults) (t : Tree) (path : String) (content : List UInt8) :
    let dir := Path.directory path
    let made := (ensureDirectory t dir).2
    (∃ stages e, writeAtomicWith faults t path content = ⟨stages, .error e⟩ ∧
      (stages = [] ∨ stages = [made])) ∨
    ∃ place, writeAtomicWith faults t path content =
        ⟨made :: (writeInside faults made place dir path content).stages,
          (writeInside faults made place dir path content).result⟩ ∧
      faults .makeDirectory = none := by
  intro dir made
  cases hmake : faults .makeDirectory with
  | some e =>
    refine .inl ⟨[], .makeDirectory dir e, ?_, .inl rfl⟩
    simp only [writeAtomicWith, hmake]
    rfl
  | none =>
    obtain ⟨result, hensured⟩ : ∃ result, ensureDirectory t dir = (result, made) := ⟨_, rfl⟩
    cases result with
    | error e =>
      refine .inl ⟨[made], e, ?_, .inr rfl⟩
      simp only [writeAtomicWith, hmake, dir, hensured]
    | ok _ =>
      cases hfind : made.find dir with
      | error e =>
        refine .inl ⟨[made], .createTemporary dir e, ?_, .inr rfl⟩
        simp only [writeAtomicWith, hmake, dir, hensured, hfind]
      | ok found =>
        refine .inr ⟨found.1, ?_, rfl⟩
        simp only [writeAtomicWith, hmake, dir, hensured, hfind]

/-- A file was written: it is where its path leads, and all else is as it was but for directories
that were made where nothing was. -/
structure Written (t final : Tree) (path : String) (content : List UInt8) (spot : Location) :
    Prop where
  located : final.locate path = .ok spot
  holds : final.lookup spot = some (.file content)
  free : t.lookup spot ≠ some .directory
  others : ∀ place, place ≠ spot → Keeps t final place

theorem Written.read {t final : Tree} {path : String} {content : List UInt8} {spot : Location}
    (h : Written t final path content spot) : final.read path = .ok content :=
  (read_eq_ok_iff final path content).mpr ⟨spot, h.located, h.holds⟩

/-- Another path to the same place reads the same. -/
theorem Written.read_same {t final : Tree} {path : String} {content : List UInt8} {spot : Location}
    (h : Written t final path content spot) (other : String)
    (hother : final.locate path = final.locate other) : final.read other = .ok content :=
  (read_eq_ok_iff final other content).mpr ⟨spot, hother.symm.trans h.located, h.holds⟩

theorem Written.directoriesIn {t final : Tree} {path : String} {content : List UInt8}
    {spot : Location} (h : Written t final path content spot) : DirectoriesIn t final := by
  intro place hplace
  have hne : place ≠ spot := by
    rintro rfl
    exact h.free hplace
  exact (h.others place hne).lookup hplace

/-- A file elsewhere reads as it did. -/
theorem Written.read_other {t final : Tree} {path : String} {content : List UInt8} {spot : Location}
    (h : Written t final path content spot) (other : String) (held : List UInt8)
    (hread : t.read other = .ok held) (hother : t.locate other ≠ .ok spot) :
    final.read other = .ok held := by
  obtain ⟨place, hlocate, hlookup⟩ := (read_eq_ok_iff t other held).mp hread
  have hne : place ≠ spot := by
    rintro rfl
    exact hother hlocate
  exact (read_eq_ok_iff final other held).mpr
    ⟨place, locate_of_directoriesIn t final h.directoriesIn other place hlocate,
      (h.others place hne).lookup hlookup⟩

section
variable (made : Tree) (temporary : Location) (content : List UInt8)

theorem lookup_filled (place : Location) (h : place ≠ temporary) :
    ((made.insert temporary (.file [])).insert temporary (.file content)).lookup place =
      made.lookup place := by
  rw [lookup_insert_of_ne _ _ _ _ h, lookup_insert_of_ne _ _ _ _ h]

/-- All is as it was but where the temporary file has gone to. -/
theorem lookup_of_moved (spot place : Location) (hfresh : made.lookup temporary = none)
    (h : place ≠ spot) :
    ((((made.insert temporary (.file [])).insert temporary (.file content)).erase
      temporary).insert spot (.file content)).lookup place = made.lookup place := by
  rw [lookup_insert_of_ne _ _ _ _ h]
  exact lookup_erase_temporary made _ temporary place hfresh (lookup_filled made temporary content)

/-- The temporary file takes the place of the file. Its name was free, so taking it away leaves
no gap, and what has changed in the end is the place that the path leads to. -/
theorem written_of_target (spot : Location) (path : String) (hfresh : made.lookup temporary = none)
    (htarget : ((made.insert temporary (.file [])).insert temporary (.file content)).target path =
      .ok spot) :
    Written made ((((made.insert temporary (.file [])).insert temporary (.file content)).erase
      temporary).insert spot (.file content)) path content spot := by
  let filled := (made.insert temporary (.file [])).insert temporary (.file content)
  have htemporary := not_isAbove_of_lookup made temporary (by simp [hfresh])
  have hheld : filled.lookup temporary = some (.file content) := lookup_insert_self _ _ _ htemporary
  have hmoved := lookup_of_moved made temporary content spot
  obtain ⟨hlocate, hfree⟩ := locate_of_target filled path spot htarget
  have hspot := not_isAbove_of_lookup filled spot hfree
  refine ⟨locate_of_directoriesIn filled _ (fun place hplace => ?_) path spot hlocate,
    lookup_insert_self _ _ _ hspot, fun hdirectory => ?_, fun place hplace => .inl ?_⟩
  · have hne : place ≠ spot := by
      rintro rfl
      exact hfree hplace
    have hother : place ≠ temporary := by
      rintro rfl
      rw [hheld] at hplace
      cases hplace
    rw [hmoved place hfresh hne, ← lookup_filled made temporary content place hother, hplace]
  · have hother : spot ≠ temporary := by
      rintro rfl
      rw [hfresh] at hdirectory
      cases hdirectory
    exact hfree ((lookup_filled made temporary content spot hother).trans hdirectory)
  · exact hmoved place hfresh hplace

end

/-- A write in a directory that is there makes no other. -/
theorem written_of_writeInside (faults : Faults) (t : Tree) (place : Location) (dir path : String)
    (content : List UInt8) (h : (writeInside faults t place dir path content).result = .ok ()) :
    ∃ spot, Written t ((writeInside faults t place dir path content).final t) path content spot ∧
      ∀ other, other ≠ spot →
        ((writeInside faults t place dir path content).final t).lookup other = t.lookup other := by
  have hfresh : t.lookup (place ++ [freshName t place path]) = none := lookup_freshName t place path
  rcases writeInside_cases faults t place dir path content with
    ⟨stages, e, hrun, -⟩ | ⟨spot, hrun, htarget, -⟩
  · rw [hrun] at h
    cases h
  · rw [hrun]
    exact ⟨spot, written_of_target t _ content spot path hfresh htarget,
      fun other hother => lookup_of_moved t _ content spot other hfresh hother⟩

/-- A write that succeeds writes the file and changes nothing else. -/
theorem written_of_writeAtomicWith (faults : Faults) (t : Tree) (path : String)
    (content : List UInt8) (h : (writeAtomicWith faults t path content).result = .ok ()) :
    ∃ spot, Written t ((writeAtomicWith faults t path content).final t) path content spot := by
  have hgrown := growsTo_ensureDirectory t (Path.directory path)
  rcases writeAtomicWith_cases faults t path content with
    ⟨stages, e, hrun, -⟩ | ⟨place, hrun, -⟩
  · rw [hrun] at h
    cases h
  · rw [hrun] at h ⊢
    obtain ⟨spot, hwritten, -⟩ := written_of_writeInside faults _ place _ path content h
    refine ⟨spot, ?_⟩
    rw [WriteRun.final] at hwritten ⊢
    rw [List.getLastD_cons]
    refine ⟨hwritten.located, hwritten.holds, fun hdirectory => ?_, fun other hother =>
      (hgrown other).trans (hwritten.others other hother)⟩
    exact hwritten.free ((hgrown spot).lookup hdirectory)

/-- Whichever step fails, the temporary file is gone again and all is as it was. Nothing but that
file was touched before the move, and a move that fails touches nothing. -/
theorem lookup_of_writeInside (faults : Faults) (t : Tree) (place : Location) (dir path : String)
    (content : List UInt8) (e : WriteError)
    (h : (writeInside faults t place dir path content).result = .error e) (other : Location) :
    ((writeInside faults t place dir path content).final t).lookup other = t.lookup other := by
  let temporary := place ++ [freshName t place path]
  let created := t.insert temporary (.file [])
  let filled := created.insert temporary (.file content)
  have hfresh : t.lookup temporary = none := lookup_freshName t place path
  have hcreated : (created.erase temporary).lookup other = t.lookup other :=
    lookup_erase_temporary t created temporary other hfresh fun place hplace =>
      lookup_insert_of_ne t temporary place _ hplace
  have hfilled : (filled.erase temporary).lookup other = t.lookup other :=
    lookup_erase_temporary t filled temporary other hfresh (lookup_filled t temporary content)
  rcases writeInside_cases faults t place dir path content with
    ⟨stages, cause, hrun, hstages⟩ | ⟨spot, hrun, -⟩
  · rw [hrun, WriteRun.final]
    simp only [List.mem_cons, List.not_mem_nil, or_false] at hstages
    rcases hstages with rfl | rfl | rfl | rfl
    · rfl
    · exact hcreated
    · exact hcreated
    · exact hfilled
  · rw [hrun] at h
    cases h

/-- A write that fails changes no file; at most directories were made that were missing on the
way. -/
theorem growsAlong_of_writeAtomicWith (faults : Faults) (t : Tree) (path : String)
    (content : List UInt8) (e : WriteError)
    (h : (writeAtomicWith faults t path content).result = .error e) :
    GrowsAlong t ((writeAtomicWith faults t path content).final t) (Path.directory path) := by
  have hgrown := growsAlong_ensureDirectory t (Path.directory path)
  rcases writeAtomicWith_cases faults t path content with
    ⟨stages, cause, hrun, rfl | rfl⟩ | ⟨place, hrun, -⟩
  · rw [hrun]
    exact GrowsAlong.refl t _
  · rw [hrun]
    exact hgrown
  · rw [hrun] at h ⊢
    have hinside := lookup_of_writeInside faults _ place _ path content e h
    rw [WriteRun.final] at hinside ⊢
    rw [List.getLastD_cons]
    exact hgrown.trans fun other => .inl (hinside other)

theorem growsTo_of_writeAtomicWith (faults : Faults) (t : Tree) (path : String)
    (content : List UInt8) (e : WriteError)
    (h : (writeAtomicWith faults t path content).result = .error e) :
    GrowsTo t ((writeAtomicWith faults t path content).final t) :=
  (growsAlong_of_writeAtomicWith faults t path content e h).growsTo

end Subtitling.Files
