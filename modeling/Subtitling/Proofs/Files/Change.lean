import Mathlib.Data.List.Perm.Basic
import Subtitling.Proofs.Files.Making

/-!
What writes do to a tree, and when they keep out of each other's way. A write to a path that
denotes a place does one of three things, which faults of the disk and a directory at the place
decide between. Of two places that lie apart, a write to one is not seen from the other, and so
writes to places that lie apart come to the same in whatever order.
-/

namespace Subtitling.Files

open Files.Tree (pieceLeads startPieces isTooLong lookup_insert_of_ne lookup_insert_self)
open Files.Path (isIdle)

def Faults.first? (faults : Faults) : Option (WriteStep × OsError) :=
  [.makeDirectory, .createTemporary, .fill, .flush, .move].findSome? fun step =>
    (faults step).map fun e => (step, e)

def WriteStep.failure (path : String) (e : OsError) : WriteStep → WriteError
  | .makeDirectory => .makeDirectory (Path.directory path) e
  | .createTemporary => .createTemporary (Path.directory path) e
  | .fill => .fill path e
  | .flush => .flush path e
  | .move => .move path e

/-- What is at each place once a file has been put at one. -/
def View.put (look : View) (place : Location) (content : List UInt8) : View := fun other =>
  if other = place then some (.file content) else look other

section
variable (look : View) (place other : Location) (content : List UInt8)

theorem View.put_self : look.put place content place = some (.file content) := if_pos rfl

theorem View.put_of_ne (h : other ≠ place) : look.put place content other = look other := if_neg h

end

inductive Change
  | nothing
  /-- The directories are made that a place lies in. -/
  | directories (place : Location)
  /-- A file is put at a place, and the directories are made that it lies in. -/
  | file (place : Location) (content : List UInt8)

def Change.apply : Change → View → View
  | .nothing, look => look
  | .directories place, look => look.withDirectories place.dropLast
  | .file place content, look => (look.withDirectories place.dropLast).put place content

/-- How a write ends, told whether a directory is in its place. -/
def writeResult (faults : Faults) (path : String) (blocked : Bool) : Except WriteError Unit :=
  match faults.first? with
  | some (step, e) => .error (step.failure path e)
  | none => if blocked then .error (.move path .isADirectory) else .ok ()

/-- What a write does, told whether a directory is in its place. -/
def writeChange (faults : Faults) (place : Location) (content : List UInt8) (blocked : Bool) :
    Change :=
  match faults.first? with
  | some (.makeDirectory, _) => .nothing
  | some _ => .directories place
  | none => if blocked then .directories place else .file place content

def EndsInName (path : String) : Prop :=
  ∃ before name, Path.pieces path = before ++ [name] ∧ isIdle name = false ∧ name ≠ ".."

/-- Behind a few characters other than slashes the last piece of a path can only be a name. Such
a piece is longer than the dots that stand for a place and for the way back. -/
theorem endsInName_of_ending (path : String) (front ending : List Char) (hslash : '/' ∉ ending)
    (hlength : 2 < ending.length) (h : path.toList = front ++ ending) : EndsInName path := by
  have hname (name : String) (more : List Char) (hmore : name.toList = more ++ ending) :
      isIdle name = false ∧ name ≠ ".." := by
    have hlong : 2 < name.toList.length := by
      rw [hmore, List.length_append]
      omega
    refine ⟨Path.isIdle_of_length name (by omega), ?_⟩
    rintro rfl
    exact absurd hlong (by decide)
  have hpieces := Path.pieces_ne_nil path
  obtain ⟨before, name, hsplit⟩ : ∃ before name, Path.pieces path = before ++ [name] :=
    ⟨_, _, (List.dropLast_concat_getLast hpieces).symm⟩
  obtain ⟨more, hmore⟩ : ∃ more, name.toList = more ++ ending := by
    by_cases hbefore : before = []
    · subst hbefore
      have hpath := Path.ofPieces_pieces path
      rw [hsplit, List.nil_append, Path.ofPieces, String.intercalate_singleton] at hpath
      exact ⟨front, by rw [hpath, h]⟩
    · obtain ⟨hpath, -⟩ := Path.eq_append_of_pieces path before [name] hsplit hbefore (by simp)
      rw [Path.ofPieces, Path.ofPieces, String.intercalate_singleton] at hpath
      rw [hpath, String.toList_append, String.toList_append, List.append_assoc] at h
      have hcons : "/".toList ++ name.toList = '/' :: name.toList := rfl
      rw [hcons] at h
      -- The last slash stands before the ending, so the last piece has all of it.
      rcases List.append_eq_append_iff.mp h with ⟨past, hfront, htail⟩ | ⟨rest, -, htail⟩
      · cases past with
        | nil =>
          rw [List.nil_append] at htail
          exact absurd (htail ▸ List.mem_cons_self) hslash
        | cons c more => exact ⟨more, (List.cons.inj htail).2⟩
      · exact absurd (htail ▸ List.mem_append_right rest List.mem_cons_self) hslash
  obtain ⟨hidle, hup⟩ := hname name more hmore
  exact ⟨before, name, hsplit, hidle, hup⟩

/-- The file takes its place, unless a directory is there. Where a directory is there, the move
is refused and the temporary file is taken away. -/
theorem moveTemporary_eq (t filled : Tree) (faults : Faults) (path : String)
    (place temporary : Location) (content : List UInt8) (hmove : faults .move = none)
    (htarget : filled.target path =
      if t.lookup place = some .directory then .error .isADirectory else .ok place)
    (hfresh : t.lookup temporary = none)
    (hfilled : ∀ other, other ≠ temporary → filled.lookup other = t.lookup other) :
    let run := moveTemporary faults path content temporary filled
    run.result = (if t.lookup place = some .directory then .error (.move path .isADirectory) else
      .ok ()) ∧
      (run.result = .ok () → ∀ other, (run.final filled).lookup other =
        if other = place then some (.file content) else t.lookup other) := by
  by_cases hblocked : t.lookup place = some .directory
  · rw [if_pos hblocked] at htarget ⊢
    simp only [moveTemporary, hmove, htarget]
    refine ⟨trivial, fun hok => ?_⟩
    cases hok
  · rw [if_neg hblocked] at htarget ⊢
    simp only [moveTemporary, hmove, htarget]
    refine ⟨trivial, fun _ other => ?_⟩
    change ((filled.erase temporary).insert place (.file content)).lookup other = _
    split
    · rename_i hother
      rw [hother, lookup_insert_self _ _ _ (Tree.not_isAbove_of_lookup t _ hblocked)]
    · rename_i hother
      rw [lookup_insert_of_ne _ _ _ _ hother]
      exact lookup_erase_temporary t filled temporary other hfresh hfilled

section

variable (t : Tree) (path : String) (start parent : Location) (before : List String) (name : String)
  (content : List UInt8) (hstart : startPieces path = .ok (start, before ++ [name]))
  (hname : isIdle name = false) (hup : name ≠ "..") (hshort : isTooLong name = false)
  (hwalk : t.walk start before = .ok parent) (hparent : t.lookup parent = some .directory)
include hstart hname hup hshort hwalk hparent

/-- A temporary file is in nobody's way. -/
theorem target_of_filled (filled : Tree) (temporary : Location) (hfresh : t.lookup temporary = none)
    (hheld : filled.lookup temporary = some (.file content))
    (hfilled : ∀ other, other ≠ temporary → filled.lookup other = t.lookup other) :
    filled.target path =
      if t.lookup (parent ++ [name]) = some .directory then .error .isADirectory
      else .ok (parent ++ [name]) := by
  have hdirectory (other : Location) :
      filled.lookup other = some .directory ↔ t.lookup other = some .directory := by
    by_cases hother : other = temporary
    · simp [hother, hheld, hfresh]
    · rw [hfilled other hother]
  have hwalkFilled :=
    Tree.walk_of_directoriesIn t filled (fun other => (hdirectory other).mpr) before
    start parent hwalk
  have htarget := filled.target_eq path start parent before name hstart hname hup hshort hwalkFilled
    ((hdirectory parent).mpr hparent)
  simpa only [hdirectory] using htarget

/-- A write in a directory that is there, once the disk has let it be made. Each step is gone
through in its turn: the first that the disk refuses decides how the write ends, and where none
is refused the file takes its place. -/
theorem writeInside_eq (faults : Faults) (hmake : faults .makeDirectory = none) :
    let run := writeInside faults t parent (Path.directory path) path content
    let blocked := decide (t.lookup (parent ++ [name]) = some .directory)
    run.result = writeResult faults path blocked ∧
      (run.result = .ok () → ∀ other, (run.final t).lookup other =
        if other = parent ++ [name] then some (.file content) else t.lookup other) := by
  let temporary := parent ++ [freshName t parent path]
  let filled := (t.insert temporary (.file [])).insert temporary (.file content)
  have hfresh : t.lookup temporary = none := lookup_freshName t parent path
  have hfilled (other : Location) (hother : other ≠ temporary) :
      filled.lookup other = t.lookup other := by
    rw [lookup_insert_of_ne _ _ _ _ hother, lookup_insert_of_ne _ _ _ _ hother]
  have hheld : filled.lookup temporary = some (.file content) :=
    lookup_insert_self _ _ _ (Tree.not_isAbove_of_lookup t temporary (by simp [hfresh]))
  have htarget :=
    target_of_filled t path start parent before name content hstart hname hup hshort hwalk
    hparent filled temporary hfresh hheld hfilled
  cases hcreate : faults .createTemporary with
  | some e => simp [writeInside, writeResult, Faults.first?, WriteStep.failure, hmake, hcreate]
  | none =>
    cases hfill : faults .fill with
    | some e =>
      simp [writeInside, writeResult, Faults.first?, WriteStep.failure, hmake, hcreate, hfill]
    | none =>
      cases hflush : faults .flush with
      | some e =>
        simp [writeInside, writeResult, Faults.first?, WriteStep.failure, hmake, hcreate, hfill,
          hflush]
      | none =>
        cases hmove : faults .move with
        | some e =>
          simp [writeInside, moveTemporary, writeResult, Faults.first?, WriteStep.failure, hmake,
            hcreate, hfill, hflush, hmove]
        | none =>
          have hfirst : faults.first? = none := by
            simp [Faults.first?, hmake, hcreate, hfill, hflush, hmove]
          obtain ⟨hresult, hmoved⟩ :=
            moveTemporary_eq t filled faults path (parent ++ [name]) temporary
            content hmove htarget hfresh hfilled
          intro run blocked
          have hsame : run.result = (moveTemporary faults path content temporary
            filled).result := by
            simp only [run, writeInside, hcreate, hfill, hflush]
            rfl
          have hfinal : run.final t =
              (moveTemporary faults path content temporary filled).final filled := by
            simp only [run, writeInside, hcreate, hfill, hflush, WriteRun.final, List.cons_append,
              List.nil_append, List.getLastD_cons]
            rfl
          rw [hsame, hfinal, writeResult, hfirst]
          simp only [blocked, decide_eq_true_eq]
          exact ⟨hresult, hmoved⟩

end

theorem Faults.first_eq_makeDirectory (faults : Faults) (e : OsError)
    (h : faults.first? = some (.makeDirectory, e)) : faults .makeDirectory = some e := by
  cases hmake : faults .makeDirectory with
  | some cause => simpa [first?, hmake] using h
  | none =>
    rw [first?, List.findSome?_cons, hmake, Option.map_none] at h
    obtain ⟨step, hstep, hfound⟩ := List.exists_of_findSome?_eq_some h
    obtain ⟨cause, -, heq⟩ := Option.map_eq_some_iff.mp hfound
    obtain rfl : step = .makeDirectory := (Prod.mk.inj heq).1
    simp at hstep

/-- A path that ends in a name denotes a place with that name, which lies in no file. The place
above it is the one that the pieces before the name lead to, whether or not anything is there. -/
theorem exists_name (look : View) (hlook : look.Grounded) (path : String) (place : Location)
    (hname : EndsInName path) (hdenoted : look.denoted path = .ok place) :
    ∃ start before name parent, startPieces path = .ok (start, before ++ [name]) ∧
      isIdle name = false ∧ name ≠ ".." ∧ isTooLong name = false ∧
      look.lead start before = .ok parent ∧ place = parent ++ [name] ∧
      ∀ other, other <+: parent → ∀ content, look other ≠ some (.file content) := by
  obtain ⟨before, name, hpieces, hidle, hup⟩ := hname
  obtain ⟨start, hstart⟩ : ∃ start, startPieces path = .ok (start, before ++ [name]) := by
    rw [View.denoted] at hdenoted
    cases hstart : startPieces path with
    | error e =>
      rw [hstart] at hdenoted
      cases hdenoted
    | ok found =>
      obtain ⟨start, pieces⟩ := found
      obtain ⟨-, -, rfl, -⟩ := Tree.isAbove_start path start pieces hstart
      exact ⟨start, by rw [hpieces]⟩
  rw [Tree.denoted_of_start _ path start _ hstart] at hdenoted
  obtain ⟨parent, hbefore, hnoFile, -, hlast⟩ :=
    View.lead_name look start place before name hdenoted
  obtain ⟨rfl, hshort⟩ := View.pieceLeads_name parent place name hidle hup hlast
  refine ⟨start, before, name, parent, hstart, hidle, hup, hshort, hbefore, rfl, ?_⟩
  obtain ⟨habove, -, -, -⟩ := Tree.isAbove_start path start _ hstart
  intro other hother held
  by_cases heq : other = parent
  · exact heq ▸ hnoFile held
  · refine View.lead_in_no_file start parent before (fun above hunder hne held => ?_) hbefore other
      hother heq held
    have hthere := hlook.of_under start above hunder hne (by simp [hlook.above start habove])
    simp [hthere]

/-- A write goes on in the directory that its path lies in, once that has been made. Where it has
to be made first, that changes what is at each place only by the directories that were missing.
-/
theorem exists_inside (t : Tree) (hlook : View.Grounded t.lookup) (faults : Faults) (path : String)
    (start parent : Location) (before : List String) (name : String) (content : List UInt8)
    (hstart : startPieces path = .ok (start, before ++ [name])) (hidle : isIdle name = false)
    (hup : name ≠ "..") (hshort : isTooLong name = false)
    (hbefore : View.lead t.lookup start before = .ok parent)
    (hinside : ∀ other, other <+: parent → ∀ content, t.lookup other ≠ some (.file content))
    (hmake : faults .makeDirectory = none) :
    ∃ (made : Tree) (run : WriteRun),
      writeAtomicWith faults t path content = ⟨made :: run.stages, run.result⟩ ∧
      made.lookup = View.withDirectories t.lookup parent ∧
      run.result = writeResult faults path (t.lookup (parent ++ [name]) = some .directory) ∧
      (∀ e, run.result = .error e → ∀ other, (run.final made).lookup other = made.lookup other) ∧
      (run.result = .ok () → ∀ other, (run.final made).lookup other =
        if other = parent ++ [name] then some (.file content) else made.lookup other) := by
  have hnoFile := hinside parent (List.prefix_refl parent)
  obtain ⟨made, hensured, hview, hfind⟩ :=
    t.ensureDirectory_eq hlook path start parent before name hstart hidle hbefore hinside
  have hparent : made.lookup parent = some .directory := by
    rw [hview, View.withDirectories_self parent hnoFile]
  have hgrounded : View.Grounded made.lookup := hview ▸ hlook.withDirectories parent hinside
  have hwalk : made.walk start before = .ok parent := by
    have hagain : View.lead made.lookup start before = .ok parent :=
      hview ▸ View.lead_withDirectories hlook start parent parent before hbefore
    exact made.walk_of_lead_directory hgrounded start parent before hagain hparent
  have hsame : made.lookup (parent ++ [name]) = t.lookup (parent ++ [name]) := by
    rw [hview, View.withDirectories_child]
  obtain ⟨hresult, hdone⟩ :=
    writeInside_eq made path start parent before name content hstart hidle hup
    hshort hwalk hparent faults hmake
  rw [hsame] at hresult
  exact ⟨made, _, by simp only [writeAtomicWith, hmake, hensured, hfind], hview, hresult,
    lookup_of_writeInside faults made parent (Path.directory path) path content, hdone⟩

/-- What a write comes to where its path ends in a name and denotes a place. All that the file
system does to it is told by one change of what is at each place, so that writes can be put in
another order without opening them. -/
theorem writeAtomicWith_eq (t : Tree) (hlook : View.Grounded t.lookup) (faults : Faults)
    (path : String) (place : Location) (content : List UInt8) (hname : EndsInName path)
    (hdenoted : View.denoted t.lookup path = .ok place) :
    let run := writeAtomicWith faults t path content
    let blocked := decide (t.lookup place = some .directory)
    run.result = writeResult faults path blocked ∧
      (run.final t).lookup = (writeChange faults place content blocked).apply t.lookup := by
  obtain ⟨start, before, name, parent, hstart, hidle, hup, hshort, hbefore, rfl, hinside⟩ :=
    exists_name t.lookup hlook path place hname hdenoted
  cases hmake : faults .makeDirectory with
  | some e =>
    have hfirst : faults.first? = some (.makeDirectory, e) := by simp [Faults.first?, hmake]
    simp only [writeAtomicWith, hmake, writeResult, writeChange, hfirst, WriteStep.failure]
    exact ⟨trivial, rfl⟩
  | none =>
    obtain ⟨made, run, hrun, hview, hresult, hfailed, hdone⟩ :=
      exists_inside t hlook faults path start
      parent before name content hstart hidle hup hshort hbefore hinside hmake
    have hdropped : (parent ++ [name]).dropLast = parent := List.dropLast_concat
    -- Whatever step fails, what is left are the directories.
    have hleft (e : WriteError) (he : run.result = .error e) :
        (run.final made).lookup = Change.apply (.directories (parent ++ [name])) t.lookup := by
      funext other
      rw [hfailed e he other, hview, Change.apply, hdropped]
    simp only [hrun, WriteRun.final, List.getLastD_cons]
    refine ⟨hresult, ?_⟩
    rw [← WriteRun.final]
    rw [writeChange]
    rw [writeResult] at hresult
    cases hfirst : faults.first? with
    | some refused =>
      obtain ⟨step, e⟩ := refused
      rw [hfirst] at hresult
      cases step with
      | makeDirectory =>
        rw [faults.first_eq_makeDirectory e hfirst] at hmake
        cases hmake
      | _ => exact hleft _ hresult
    | none =>
      rw [hfirst] at hresult
      by_cases hblocked : t.lookup (parent ++ [name]) = some .directory
      · simp only [hblocked, decide_true, if_true] at hresult ⊢
        exact hleft _ hresult
      · simp only [hblocked, decide_false, Bool.false_eq_true, if_false] at hresult ⊢
        funext other
        rw [hdone hresult other, hview, Change.apply, hdropped]
        rfl

end Subtitling.Files
