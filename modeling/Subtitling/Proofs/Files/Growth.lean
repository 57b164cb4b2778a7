import Mathlib.Logic.Relation
import Subtitling.Proofs.Files.Tree

/-!
How a tree grows by directories. A directory is made where its path leads, and only where nothing
was; those that are missing on the way to it are made first, one at a time. So at each point on
the way, and where it ends in a fault, nothing else has changed.
-/

namespace Subtitling.Files

/-- A path is another one, or one that it lies in. -/
def Path.Encloses (dir path : String) : Prop :=
  Relation.ReflTransGen (fun inner outer => Path.parent? inner = some outer) path dir

namespace Tree

/-- Nothing changed at a place, or a directory was made where nothing was. -/
def Keeps (t grown : Tree) (place : Location) : Prop :=
  grown.lookup place = t.lookup place ∨
    t.lookup place = none ∧ grown.lookup place = some .directory

theorem Keeps.trans {t middle grown : Tree} {place : Location} (h : Keeps t middle place)
    (hmore : Keeps middle grown place) : Keeps t grown place := by
  rcases h with hsame | ⟨hnone, hmade⟩
  · rw [Keeps, ← hsame]
    exact hmore
  · rcases hmore with hsame | ⟨hmissing, -⟩
    · exact .inr ⟨hnone, hsame.trans hmade⟩
    · rw [hmade] at hmissing
      cases hmissing

/-- What was there is there. -/
theorem Keeps.lookup {t grown : Tree} {place : Location} {entry : Entry} (h : Keeps t grown place)
    (hentry : t.lookup place = some entry) : grown.lookup place = some entry := by
  rcases h with hsame | ⟨hnone, -⟩
  · exact hsame.trans hentry
  · rw [hentry] at hnone
    cases hnone

/-- Directories were added where nothing was, and nothing else changed. -/
def GrowsTo (t grown : Tree) : Prop := ∀ place, Keeps t grown place

theorem GrowsTo.refl (t : Tree) : GrowsTo t t := fun _ => .inl rfl

theorem GrowsTo.trans {t middle grown : Tree} (h : GrowsTo t middle)
    (hmore : GrowsTo middle grown) :
    GrowsTo t grown :=
  fun place => (h place).trans (hmore place)

theorem GrowsTo.directoriesIn {t grown : Tree} (h : GrowsTo t grown) : DirectoriesIn t grown :=
  fun place hplace => (h place).lookup hplace

theorem GrowsTo.read {t grown : Tree} (h : GrowsTo t grown) (path : String) (held : List UInt8)
    (hread : t.read path = .ok held) : grown.read path = .ok held := by
  obtain ⟨place, hlocate, hlookup⟩ := (read_eq_ok_iff t path held).mp hread
  exact (read_eq_ok_iff grown path held).mpr
    ⟨place, locate_of_directoriesIn t grown h.directoriesIn path place hlocate,
      (h place).lookup hlookup⟩

theorem GrowsTo.insert_directory (t : Tree) (place : Location) (h : t.lookup place = none) :
    GrowsTo t (t.insert place .directory) := by
  intro other
  by_cases hother : other = place
  · subst hother
    have hplace := not_isAbove_of_lookup t other (by simp [h])
    exact .inr ⟨h, lookup_insert_self t other .directory hplace⟩
  · exact .inl (lookup_insert_of_ne t place other .directory hother)

/-- Nothing changed at a place, or nothing was there and it is now a directory that a path is or
lies in. -/
def KeptAlong (t grown : Tree) (path : String) (place : Location) : Prop :=
  grown.lookup place = t.lookup place ∨
    t.lookup place = none ∧ grown.lookup place = some .directory ∧
      ∃ dir, Path.Encloses dir path ∧ grown.locate dir = .ok place

/-- Of what is on the way to a path, directories were made where nothing was, and nothing else
changed. -/
def GrowsAlong (t grown : Tree) (path : String) : Prop := ∀ place, KeptAlong t grown path place

section
variable {t middle grown : Tree} {path parent : String} {place : Location}

theorem KeptAlong.keeps (h : KeptAlong t grown path place) : Keeps t grown place :=
  h.imp_right fun hmade => ⟨hmade.1, hmade.2.1⟩

theorem GrowsAlong.refl (t : Tree) (path : String) : GrowsAlong t t path := fun _ => .inl rfl

theorem GrowsAlong.growsTo (h : GrowsAlong t grown path) :
    GrowsTo t grown := fun place => (h place).keeps

/-- What was made stays where it is while directories stay. -/
theorem KeptAlong.trans (h : KeptAlong t middle path place)
    (hmore : KeptAlong middle grown path place) (hstay : DirectoriesIn middle grown) :
    KeptAlong t grown path place := by
  rcases h with hsame | ⟨hnone, hmade, dir, hdir, hlocate⟩
  · rw [KeptAlong, ← hsame]
    exact hmore
  · exact .inr ⟨hnone, hstay place hmade, dir, hdir,
      locate_of_directoriesIn middle grown hstay dir place hlocate⟩

theorem GrowsAlong.trans (h : GrowsAlong t middle path) (hmore : GrowsAlong middle grown path) :
    GrowsAlong t grown path :=
  fun place => (h place).trans (hmore place) hmore.growsTo.directoriesIn

/-- What a path lies in is on the way to it. -/
theorem GrowsAlong.of_parent (hparent : Path.parent? path = some parent)
    (h : GrowsAlong t grown parent) :
    GrowsAlong t grown path := by
  refine fun place => (h place).imp_right ?_
  rintro ⟨hnone, hmade, dir, hdir, hlocate⟩
  exact ⟨hnone, hmade, dir, .head hparent hdir, hlocate⟩

end

theorem growsAlong_getLastD (t : Tree) (stages : List Tree) (path : String)
    (h : ∀ stage ∈ stages, GrowsAlong t stage path) : GrowsAlong t (stages.getLastD t) path := by
  have hlast : stages.getLastD t ∈ t :: stages := List.getLastD_mem_cons
  rcases List.mem_cons.mp hlast with hsame | hmem
  · rw [hsame]
    exact GrowsAlong.refl t path
  · exact h _ hmem

/-- What it takes for a directory to be made: the directory of the last piece that is not empty,
which is a name, and nothing at the place itself. -/
theorem makeDirectory_eq_ok (t made : Tree) (path : String) (h : t.makeDirectory path = .ok made) :
    ∃ start before name empties parent, startPieces path = .ok (start, before ++ name :: empties) ∧
      (∀ piece ∈ empties, piece.isEmpty = true) ∧ t.walk start before = .ok parent ∧
      t.lookup parent = some .directory ∧ pieceLeads parent name = .ok (parent ++ [name]) ∧
      t.lookup (parent ++ [name]) = none ∧ made = t.insert (parent ++ [name]) .directory := by
  simp only [makeDirectory] at h
  cases hstart : startPieces path with
  | error e =>
    rw [hstart] at h
    cases h
  | ok found =>
    obtain ⟨start, pieces⟩ := found
    rw [hstart] at h
    simp only [bind, Except.bind] at h
    cases hnamed : pieces.reverse.dropWhile String.isEmpty with
    | nil =>
      rw [hnamed] at h
      cases h
    | cons name before =>
      rw [hnamed] at h
      simp only at h
      obtain ⟨hpieces, hempties, hname⟩ :=
        eq_append_of_dropWhile_reverse String.isEmpty pieces before name hnamed
      cases hparent : t.walk start before.reverse with
      | error e =>
        rw [hparent] at h
        cases h
      | ok parent =>
        rw [hparent] at h
        simp only at h
        split at h
        · cases h
        · cases h
        · rename_i hdirectory
          split at h
          · cases h
          · rename_i hdots
            split at h
            · cases h
            · rename_i hlong
              split at h
              · cases h
              · rename_i hfree
                simp only [Bool.or_eq_true, decide_eq_true_eq, not_or] at hdots
                refine ⟨start, before.reverse, name, _, parent, by rw [← hpieces], hempties,
                  hparent, hdirectory, ?_, hfree, (Except.ok.inj h).symm⟩
                simp [pieceLeads, hname, hdots.1, hdots.2, hlong]

/-- Pieces that are empty lead on from a directory to itself. -/
theorem walk_empties (t : Tree) (place : Location) (pieces : List String)
    (hthere : t.lookup place = some .directory) (hempty : ∀ piece ∈ pieces, piece.isEmpty = true) :
    t.walk place pieces = .ok place := by
  induction pieces with
  | nil => rfl
  | cons piece rest ih =>
    refine (walk_cons_eq_ok_iff t place place piece rest).mpr ⟨hthere, place, ?_, ?_⟩
    · rw [pieceLeads, hempty piece List.mem_cons_self]
      rfl
    · exact ih fun other hother => hempty other (List.mem_cons_of_mem piece hother)

/-- A directory is made where its path leads. -/
theorem growsAlong_of_makeDirectory (t made : Tree) (path : String)
    (h : t.makeDirectory path = .ok made) : GrowsAlong t made path := by
  obtain ⟨start, before, name, empties, parent, hstart, hempties, hwalk, hparent, hname, hfree,
    rfl⟩ :=
    makeDirectory_eq_ok t made path h
  let place := parent ++ [name]
  have hgrown : GrowsTo t (t.insert place .directory) := GrowsTo.insert_directory t place hfree
  have hthere : (t.insert place .directory).lookup place = some .directory :=
    lookup_insert_self t place .directory (not_isAbove_of_lookup t place (by simp [place, hfree]))
  have hrest := walk_empties (t.insert place .directory) place empties hthere hempties
  have hlocate : (t.insert place .directory).locate path = .ok place := by
    refine (locate_eq_ok_iff _ path place).mpr ⟨start, _, hstart, ?_⟩
    refine walk_append _ start parent place before _
      (walk_of_directoriesIn t _ hgrown.directoriesIn before start parent hwalk) ?_
    exact (walk_cons_eq_ok_iff _ parent place name empties).mpr
      ⟨hgrown.directoriesIn parent hparent, place, hname, hrest⟩
  intro other
  by_cases hother : other = place
  · rw [hother]
    exact .inr ⟨hfree, hthere, path, .refl, hlocate⟩
  · exact .inl (lookup_insert_of_ne t place other .directory hother)

/-- The trees that the making of a directory passes through, one for each directory that is made. -/
def makingsWithin (t : Tree) : Nat → String → List Tree
  | 0, _ => []
  | fuel + 1, path =>
    let settle (grown : Tree) : List Tree := (grown.makeDirectory path).toOption.toList
    if path.isEmpty then []
    else
      match t.makeDirectory path with
      | .error .notFound =>
        match Path.parent? path with
        | none => []
        | some parent =>
          match t.makeDirectoriesWithin fuel parent with
          | (.error _, _) => t.makingsWithin fuel parent
          | (.ok (), grown) => t.makingsWithin fuel parent ++ settle grown
      | _ => settle t

/-- The trees that a directory and those it lies in are made in, unless it is there. -/
def makings (t : Tree) (path : String) : List Tree :=
  if t.isDirectory path then [] else t.makingsWithin (path.length + 1) path

/-- The last of them is the one that is left. -/
theorem getLastD_makingsWithin (t : Tree) (fuel : Nat) (path : String) :
    (t.makingsWithin fuel path).getLastD t = (t.makeDirectoriesWithin fuel path).2 := by
  induction fuel generalizing path with
  | zero => rfl
  | succ fuel ih =>
    rw [makingsWithin, makeDirectoriesWithin]
    by_cases hempty : path.isEmpty
    · rw [if_pos hempty, if_pos hempty]
      rfl
    · rw [if_neg hempty, if_neg hempty]
      cases hmake : t.makeDirectory path with
      | ok made => simp [Except.toOption, hmake]
      | error e =>
        cases e with
        | notFound =>
          cases hparent : Path.parent? path with
          | none => rfl
          | some parent =>
            have hlast := ih parent
            cases hresult : t.makeDirectoriesWithin fuel parent with
            | mk result grown =>
              rw [hresult] at hlast
              simp only [hresult]
              cases result with
              | error e => exact hlast
              | ok _ =>
                cases hmade : grown.makeDirectory path with
                | ok made => simp [Except.toOption, hmade]
                | error e => simpa [Except.toOption, hmade] using hlast
        | _ => simp [Except.toOption, hmake]

/-- Every tree on the way has directories on the way. Each directory is made only once the one
that it lies in is there, so no tree on the way lacks one further up. -/
theorem growsAlong_of_mem_makingsWithin (t stage : Tree) (fuel : Nat) (path : String)
    (h : stage ∈ t.makingsWithin fuel path) : GrowsAlong t stage path := by
  induction fuel generalizing path stage with
  | zero => cases h
  | succ fuel ih =>
    have hsettle (grown : Tree) (hgrown : GrowsAlong t grown path)
        (hmem : stage ∈ (grown.makeDirectory path).toOption.toList) : GrowsAlong t stage path := by
      cases hmade : grown.makeDirectory path with
      | ok made =>
        rw [hmade] at hmem
        obtain rfl := List.mem_singleton.mp hmem
        exact hgrown.trans (growsAlong_of_makeDirectory grown stage path hmade)
      | error e =>
        rw [hmade] at hmem
        cases hmem
    rw [makingsWithin] at h
    split at h
    · cases h
    · split at h
      · split at h
        · cases h
        · rename_i parent hparent
          split at h
          · exact (ih stage parent h).of_parent hparent
          · rename_i grown hresult
            rcases List.mem_append.mp h with hbefore | hlast
            · exact (ih stage parent hbefore).of_parent hparent
            · refine hsettle grown ?_ hlast
              have hgrown := growsAlong_getLastD t (t.makingsWithin fuel parent) parent
                fun before hmem => ih before parent hmem
              rw [getLastD_makingsWithin, hresult] at hgrown
              exact hgrown.of_parent hparent
      · exact hsettle t (GrowsAlong.refl t path) h

theorem growsAlong_of_mem_makings (t stage : Tree) (path : String) (h : stage ∈ t.makings path) :
    GrowsAlong t stage path := by
  rw [makings] at h
  split at h
  · cases h
  · exact growsAlong_of_mem_makingsWithin t stage _ path h

end Tree

end Subtitling.Files
