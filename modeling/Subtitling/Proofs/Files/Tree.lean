import Subtitling.Files.Tree

/-!
What changes in a tree, and for whom. Putting an entry at a place and taking it away is seen at
that place alone, and following a path asks for nothing but directories, so a path leads to the
same place in every tree that has the directories it passes.
-/

namespace Subtitling.Files.Tree

/-- What is at a place once an entry was put in. The new entry stands in place of one that was
there and changes no other. -/
theorem lookup_insertEntry (place other : Location) (entry : Entry)
    (entries : List (Location × Entry)) :
    (insertEntry place entry entries).lookup other =
      if other = place then some entry else entries.lookup other := by
  induction entries with
  | nil =>
    by_cases h : other = place
    · simp [insertEntry, h]
    · have hne : (other == place) = false := beq_eq_false_iff_ne.mpr h
      simp [insertEntry, List.lookup_cons, h, hne]
  | cons first rest ih =>
    obtain ⟨p, e⟩ := first
    by_cases hp : p = place
    · subst hp
      by_cases h : other = p
      · simp [insertEntry, h]
      · have hne : (other == p) = false := beq_eq_false_iff_ne.mpr h
        simp [insertEntry, List.lookup_cons, h, hne]
    · by_cases h : other = p
      · subst h
        simp [insertEntry, hp]
      · have hne : (other == p) = false := beq_eq_false_iff_ne.mpr h
        simp [insertEntry, hp, List.lookup_cons, hne, ih]

/-- What is at a place once another was taken out. Every other place keeps what it had. -/
theorem lookup_filter_ne (place other : Location) (entries : List (Location × Entry)) :
    (entries.filter fun (p, _) => decide (p ≠ place)).lookup other =
      if other = place then none else entries.lookup other := by
  induction entries with
  | nil => simp
  | cons first rest ih =>
    obtain ⟨p, e⟩ := first
    by_cases hp : p = place
    · subst hp
      by_cases h : other = p
      · simpa [h] using ih
      · have hne : (other == p) = false := beq_eq_false_iff_ne.mpr h
        simpa [h, List.lookup_cons, hne] using ih
    · by_cases h : other = p
      · subst h
        simp [hp]
      · have hne : (other == p) = false := beq_eq_false_iff_ne.mpr h
        simpa [hp, List.lookup_cons, hne] using ih

section
variable (t : Tree) (place other : Location) (entry : Entry)

theorem lookup_insert_of_ne (h : other ≠ place) :
    (t.insert place entry).lookup other = t.lookup other := by
  simp only [lookup, insert, lookup_insertEntry, h, if_false]

theorem lookup_insert_self (h : place.isAbove = false) :
    (t.insert place entry).lookup place = some entry := by
  simp only [lookup, insert, lookup_insertEntry, h, Bool.false_eq_true, if_false, if_true]

theorem lookup_erase_of_ne (h : other ≠ place) : (t.erase place).lookup other = t.lookup other := by
  simp only [lookup, erase, lookup_filter_ne, h, if_false]

theorem lookup_erase_self (h : place.isAbove = false) : (t.erase place).lookup place = none := by
  simp only [lookup, erase, lookup_filter_ne, h, Bool.false_eq_true, if_false, if_true]

theorem not_isAbove_of_lookup (h : t.lookup place ≠ some .directory) : place.isAbove = false := by
  cases habove : place.isAbove with
  | false => rfl
  | true => simp [lookup, habove] at h

end

/-- Where one piece of a path leads, whatever the tree. -/
def pieceLeads (place : Location) (piece : String) : Except OsError Location :=
  if piece.isEmpty || piece = "." then .ok place
  else if piece = ".." then .ok place.up
  else if isTooLong piece then .error .nameTooLong
  else .ok (place ++ [piece])

/-- One more piece of a way through a tree: there has to be a directory to take it from, and it
leads to a place from which the rest is followed. -/
theorem walk_cons_eq_ok_iff (t : Tree) (start place : Location) (piece : String)
    (rest : List String) : t.walk start (piece :: rest) = .ok place ↔
      t.lookup start = some .directory ∧
        ∃ next, pieceLeads start piece = .ok next ∧ t.walk next rest = .ok place := by
  rw [walk, pieceLeads]
  cases hstart : t.lookup start with
  | none => simp
  | some entry =>
    cases entry with
    | file content => simp
    | directory =>
      simp only [true_and]
      split
      · simp
      · split
        · simp
        · split <;> simp

/-- Every directory of one tree is there in another. -/
def DirectoriesIn (t grown : Tree) : Prop :=
  ∀ place, t.lookup place = some .directory → grown.lookup place = some .directory

/-- Following a path needs nothing but the directories that it passes. -/
theorem walk_of_directoriesIn (t grown : Tree) (h : DirectoriesIn t grown) (pieces : List String)
    (start place : Location) (hwalk : t.walk start pieces = .ok place) :
    grown.walk start pieces = .ok place := by
  induction pieces generalizing start with
  | nil => exact hwalk
  | cons piece rest ih =>
    obtain ⟨hstart, next, hnext, hrest⟩ := (walk_cons_eq_ok_iff t start place piece rest).mp hwalk
    exact (walk_cons_eq_ok_iff grown start place piece rest).mpr
      ⟨h start hstart, next, hnext, ih next hrest⟩

theorem walk_append (t : Tree) (start middle place : Location) (front rest : List String)
    (hfront : t.walk start front = .ok middle) (hrest : t.walk middle rest = .ok place) :
    t.walk start (front ++ rest) = .ok place := by
  induction front generalizing start with
  | nil =>
    obtain rfl := Except.ok.inj hfront
    exact hrest
  | cons piece more ih =>
    obtain ⟨hstart, next, hnext, hmore⟩ := (walk_cons_eq_ok_iff t start middle piece more).mp hfront
    exact (walk_cons_eq_ok_iff t start place piece (more ++ rest)).mpr
      ⟨hstart, next, hnext, ih next hmore⟩

theorem locate_eq_ok_iff (t : Tree) (path : String) (place : Location) :
    t.locate path = .ok place ↔ ∃ start pieces, startPieces path = .ok (start, pieces) ∧
      t.walk start pieces = .ok place := by
  simp only [locate]
  cases hstart : startPieces path with
  | error e => simp [bind, Except.bind]
  | ok found =>
    constructor
    · intro h
      exact ⟨found.1, found.2, rfl, h⟩
    · rintro ⟨start, pieces, hfound, h⟩
      obtain rfl := Except.ok.inj hfound
      exact h

theorem locate_of_directoriesIn (t grown : Tree) (h : DirectoriesIn t grown) (path : String)
    (place : Location) (hlocate : t.locate path = .ok place) : grown.locate path = .ok place := by
  obtain ⟨start, pieces, hstart, hwalk⟩ := (locate_eq_ok_iff t path place).mp hlocate
  exact (locate_eq_ok_iff grown path place).mpr
    ⟨start, pieces, hstart, walk_of_directoriesIn t grown h pieces start place hwalk⟩

/-- A file is read where its path leads. -/
theorem read_eq_ok_iff (t : Tree) (path : String) (content : List UInt8) :
    t.read path = .ok content ↔
      ∃ place, t.locate path = .ok place ∧ t.lookup place = some (.file content) := by
  simp only [read, find]
  cases hlocate : t.locate path with
  | error e => simp [bind, Except.bind]
  | ok place =>
    cases hlookup : t.lookup place with
    | none => simp [bind, Except.bind, hlookup, throw, throwThe, MonadExceptOf.throw]
    | some entry =>
      cases entry <;>
        simp [bind, Except.bind, hlookup, pure, Except.pure, throw, throwThe, MonadExceptOf.throw]

/-- What is dropped at the end of a list stands behind the last one that is kept. -/
theorem eq_append_of_dropWhile_reverse {α : Type} (p : α → Bool) (xs before : List α) (last : α)
    (h : xs.reverse.dropWhile p = last :: before) :
    xs = before.reverse ++ last :: (xs.reverse.takeWhile p).reverse ∧
      (∀ x ∈ (xs.reverse.takeWhile p).reverse, p x = true) ∧ p last = false := by
  refine ⟨?_, fun x hx => ?_, ?_⟩
  · have hsplit := List.takeWhile_append_dropWhile (p := p) (l := xs.reverse)
    rw [h] at hsplit
    rw [← List.reverse_inj, List.reverse_append, List.reverse_cons]
    simpa using hsplit.symm
  · exact List.all_eq_true.mp List.all_takeWhile x (List.mem_reverse.mp hx)
  · have hhead := List.head?_dropWhile_not p xs.reverse
    rw [h] at hhead
    exact hhead

/-- A list is split at its end where that is not dropped. -/
theorem eq_concat_of_dropWhile_reverse {α : Type} (p : α → Bool) (xs before : List α) (last : α)
    (h : xs.reverse.dropWhile p = last :: before) (hlast : ¬ xs.getLast?.any p = true) :
    xs = before.reverse ++ [last] ∧ p last = false := by
  obtain ⟨hxs, hdropped, hkept⟩ := eq_append_of_dropWhile_reverse p xs before last h
  rcases List.eq_nil_or_concat (xs.reverse.takeWhile p).reverse with hnone | ⟨front, x, hsome⟩
  · rw [hnone] at hxs
    exact ⟨hxs, hkept⟩
  · rw [hsome] at hxs hdropped
    have hx : p x = true := hdropped x (by simp)
    have hends : xs.getLast? = some x := by
      rw [hxs, List.concat_eq_append, ← List.cons_append, ← List.append_assoc, List.getLast?_concat]
    exact absurd hx (by simpa [hends] using hlast)

/-- What it takes for a file to be moved to a path: the directory of its last piece, which is a
name, and no directory at the place itself. -/
theorem target_eq_ok (t : Tree) (path : String) (place : Location) (h : t.target path = .ok place) :
    ∃ start before name parent, startPieces path = .ok (start, before ++ [name]) ∧
      t.walk start before = .ok parent ∧ t.lookup parent = some .directory ∧
      pieceLeads parent name = .ok place ∧ t.lookup place ≠ some .directory := by
  simp only [target] at h
  cases hstart : startPieces path with
  | error e =>
    rw [hstart] at h
    cases h
  | ok found =>
    obtain ⟨start, pieces⟩ := found
    rw [hstart] at h
    simp only [bind, Except.bind] at h
    cases hnamed : pieces.reverse.dropWhile String.isEmpty with
    | nil =>
      rw [hnamed] at h
      cases h
    | cons name before =>
      rw [hnamed] at h
      simp only at h
      cases hparent : t.walk start before.reverse with
      | error e =>
        rw [hparent] at h
        cases h
      | ok parent =>
        rw [hparent] at h
        simp only at h
        split at h
        · cases h
        · cases h
        · rename_i hdirectory
          split at h
          · cases h
          · rename_i hdots
            split at h
            · cases h
            · rename_i hlong
              split at h
              · cases h
              · rename_i hlast
                obtain ⟨hpieces, hname⟩ :=
                  eq_concat_of_dropWhile_reverse String.isEmpty pieces before name hnamed hlast
                split at h
                · cases h
                · rename_i hfree
                  obtain rfl := Except.ok.inj h
                  simp only [Bool.or_eq_true, decide_eq_true_eq, not_or] at hdots
                  refine ⟨start, before.reverse, name, parent, by rw [hpieces], hparent, hdirectory,
                    ?_, hfree⟩
                  simp [pieceLeads, hname, hdots.1, hdots.2, hlong]

/-- The place that a moved file takes is where its path leads, and it is no directory. -/
theorem locate_of_target (t : Tree) (path : String) (place : Location)
    (h : t.target path = .ok place) :
    t.locate path = .ok place ∧ t.lookup place ≠ some .directory := by
  obtain ⟨start, before, name, parent, hstart, hwalk, hparent, hname, hfree⟩ :=
    target_eq_ok t path place h
  refine ⟨(locate_eq_ok_iff t path place).mpr ⟨start, before ++ [name], hstart, ?_⟩, hfree⟩
  exact walk_append t start parent place before [name] hwalk
    ((walk_cons_eq_ok_iff t parent place name []).mpr ⟨hparent, place, hname, rfl⟩)

end Subtitling.Files.Tree
