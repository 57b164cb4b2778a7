import Mathlib.Data.List.Induction
import Subtitling.Proofs.Files.Path
import Subtitling.Proofs.Files.Tree

/-!
What a path stands for where not all of it is there. A path denotes a place even if the names at
its end are missing, since the directories that it passes can be made; there is no way back out
of what is missing, and none through a file. What is read at a path is what is where the path
ends, be it at the place that it denotes or where the way back is missing.
-/

namespace Subtitling.Files

open Files.Tree (pieceLeads startPieces isTooLong)
open Files.Path (isIdle)

abbrev View := Location → Option Entry

namespace View

/-- Everything that is there lies in a directory. -/
structure Grounded (look : View) : Prop where
  above : ∀ place : Location, place.isAbove = true → look place = some .directory
  inside : ∀ place name, look (place ++ [name]) ≠ none → look place = some .directory

/-- A tree whose entries all lie in directories. -/
theorem grounded_of_entries (t : Tree)
    (h : ∀ entry ∈ t.entries, t.lookup entry.1.dropLast = some .directory) :
    Grounded t.lookup := by
  have habove (place : Location) (hplace : place.isAbove = true) :
    t.lookup place = some .directory := by
    rw [Tree.lookup, if_pos hplace]
  refine ⟨habove, fun place name hthere => ?_⟩
  rw [Tree.lookup] at hthere
  split at hthere
  · rename_i hup
    rw [Location.isAbove, Bool.or_eq_true, decide_eq_true_eq] at hup
    apply habove
    rw [Location.isAbove, Bool.or_eq_true]
    rcases hup with hall | hroot
    · rw [List.all_append, Bool.and_eq_true] at hall
      exact .inl hall.1
    · have hlength := congrArg List.length hroot
      rw [List.length_append, List.length_singleton, root, List.length_singleton] at hlength
      obtain rfl := List.length_eq_zero_iff.mp (show place.length = 0 by omega)
      exact .inl rfl
  · obtain ⟨entry, hentry⟩ := Option.ne_none_iff_exists'.mp hthere
    obtain ⟨before, after, hentries, -⟩ := List.lookup_eq_some_iff.mp hentry
    have hdirectory := h (place ++ [name], entry) (by simp [hentries])
    rwa [List.dropLast_concat] at hdirectory

/-- Follows pieces of a path from a place on. Names go on below what is missing, but the way back
does not. -/
def lead (look : View) : Location → List String → Except OsError Location
  | place, [] => .ok place
  | place, piece :: rest =>
    match look place with
    | some (.file _) => .error .notADirectory
    | some .directory => do lead look (← pieceLeads place piece) rest
    | none =>
      if piece = ".." || isTooLong piece then .error .notFound
      else do lead look (← pieceLeads place piece) rest

def denoted (look : View) (path : String) : Except OsError Location := do
  let (start, pieces) ← startPieces path
  look.lead start pieces

/-- Follows pieces of a path to where they end: at the place that they denote, or where nothing
is and they cannot do without it. -/
def follow (look : View) : Location → List String → Except OsError Location
  | place, [] => .ok place
  | place, piece :: rest =>
    match look place with
    | some (.file _) => .error .notADirectory
    | some .directory => do follow look (← pieceLeads place piece) rest
    | none =>
      if piece = ".." || isTooLong piece then .ok place
      else do follow look (← pieceLeads place piece) rest

def followed (look : View) (path : String) : Except OsError Location := do
  let (start, pieces) ← startPieces path
  look.follow start pieces

/-- What is at each place once a directory is there with those that it lies in. -/
def withDirectories (look : View) (place : Location) : View := fun other =>
  if look other = none ∧ other <+: place then some .directory else look other

variable {look grown : View}

theorem Grounded.of_under (hlook : look.Grounded) (place other : Location)
    (hunder : other <+: place) (hne : other ≠ place) (hthere : look place ≠ none) :
    look other = some .directory := by
  induction place using List.reverseRecOn with
  | nil => exact absurd (List.prefix_nil.mp hunder) hne
  | append_singleton parent name ih =>
    have hparent := hlook.inside parent name hthere
    rcases List.prefix_concat_iff.mp hunder with heq | hin
    · exact absurd heq hne
    · by_cases hother : other = parent
      · exact hother ▸ hparent
      · exact ih hin hother (by simp [hparent])

theorem Grounded.missing_append (hlook : look.Grounded) (place : Location) (name : String)
    (hmissing : look place = none) : look (place ++ [name]) = none := by
  by_contra hthere
  have hdirectory := hlook.inside place name hthere
  rw [hmissing] at hdirectory
  cases hdirectory

theorem withDirectories_of_there (hlook : look.Grounded) (place : Location)
    (hthere : look place ≠ none) : look.withDirectories place = look := by
  funext other
  rw [withDirectories, if_neg]
  rintro ⟨hmissing, hunder⟩
  by_cases hother : other = place
  · exact hthere (hother ▸ hmissing)
  · have hdirectory := hlook.of_under place other hunder hother hthere
    rw [hmissing] at hdirectory
    cases hdirectory

theorem withDirectories_self (place : Location)
    (hfile : ∀ content, look place ≠ some (.file content)) :
    look.withDirectories place place = some .directory := by
  rw [withDirectories]
  split
  · rfl
  · rename_i hthere
    cases hentry : look place with
    | none => exact absurd ⟨hentry, List.prefix_refl place⟩ hthere
    | some entry =>
      cases entry with
      | directory => rfl
      | file content => exact absurd hentry (hfile content)

/-- Nothing is made in the last of the directories. -/
theorem withDirectories_child (look : View) (parent : Location) (name : String) :
    look.withDirectories parent (parent ++ [name]) = look (parent ++ [name]) := by
  rw [withDirectories, if_neg]
  rintro ⟨-, hunder⟩
  have hlength := hunder.length_le
  rw [List.length_append, List.length_singleton] at hlength
  omega

/-- One more piece of a path: no file may be in its way, and there is no way back out of what is
not there. -/
theorem lead_cons_eq_ok_iff (start place : Location) (piece : String) (rest : List String) :
    look.lead start (piece :: rest) = .ok place ↔
      (∀ content, look start ≠ some (.file content)) ∧ (look start = none → piece ≠ "..") ∧
        ∃ next, pieceLeads start piece = .ok next ∧ look.lead next rest = .ok place := by
  have hbind : (do look.lead (← pieceLeads start piece) rest) = .ok place ↔
      ∃ next, pieceLeads start piece = .ok next ∧ look.lead next rest = .ok place := by
    cases pieceLeads start piece <;> simp [bind, Except.bind]
  rw [lead]
  cases hstart : look start with
  | none =>
    simp only [reduceCtorEq, not_false_eq_true, implies_true, true_and, forall_const, ne_eq]
    split
    · rename_i hwrong
      simp only [reduceCtorEq, false_iff, not_and, not_exists]
      rintro hback next hnext -
      have hlong : isTooLong piece = true := by simpa [hback] using hwrong
      have hidle : (piece.isEmpty || piece = ".") = false := by
        cases hidle : piece.isEmpty || piece = "." with
        | false => rfl
        | true =>
          simp only [Bool.or_eq_true, decide_eq_true_eq, String.isEmpty_iff] at hidle
          rcases hidle with rfl | rfl <;> exact absurd hlong (by decide)
      simp [pieceLeads, hidle, hback, hlong] at hnext
    · rename_i hright
      simp only [Bool.or_eq_true, decide_eq_true_eq, not_or] at hright
      rw [hbind]
      simp [hright.1]
  | some entry =>
    cases entry with
    | directory => simp [hbind]
    | file content => simp

theorem lead_append_eq_ok_iff (start place : Location) (front more : List String) :
    look.lead start (front ++ more) = .ok place ↔
      ∃ middle, look.lead start front = .ok middle ∧ look.lead middle more = .ok place := by
  induction front generalizing start with
  | nil => simp [lead]
  | cons piece rest ih =>
    simp only [List.cons_append, lead_cons_eq_ok_iff, ih]
    constructor
    · rintro ⟨hfile, hback, next, hnext, middle, hmiddle, hmore⟩
      exact ⟨middle, ⟨hfile, hback, next, hnext, hmiddle⟩, hmore⟩
    · rintro ⟨middle, ⟨hfile, hback, next, hnext, hmiddle⟩, hmore⟩
      exact ⟨hfile, hback, next, hnext, middle, hmiddle, hmore⟩

theorem pieceLeads_idle (place : Location) (piece : String) (h : isIdle piece = true) :
    pieceLeads place piece = .ok place := by
  rw [isIdle] at h
  rw [pieceLeads, if_pos h]

theorem pieceLeads_name (place next : Location) (piece : String) (hidle : isIdle piece = false)
    (hback : piece ≠ "..") (h : pieceLeads place piece = .ok next) :
    next = place ++ [piece] ∧ isTooLong piece = false := by
  rw [isIdle] at hidle
  rw [pieceLeads, if_neg (by simp [hidle]), if_neg hback] at h
  split at h
  · cases h
  · rename_i hshort
    exact ⟨(Except.ok.inj h).symm, Bool.eq_false_iff.mpr hshort⟩

theorem lead_of_idle (start : Location) (pieces : List String)
    (hthere : look start = some .directory) (hidle : ∀ i ∈ pieces, isIdle i = true) :
    look.lead start pieces = .ok start := by
  induction pieces with
  | nil => rfl
  | cons piece rest ih =>
    exact (lead_cons_eq_ok_iff start start piece rest).mpr
      ⟨by simp [hthere], by simp [hthere], start, pieceLeads_idle start piece
        (hidle piece (by simp)), ih fun i hi => hidle i (by simp [hi])⟩

theorem lead_idle (start place : Location) (pieces : List String)
    (hidle : ∀ i ∈ pieces, isIdle i = true) (h : look.lead start pieces = .ok place) :
    place = start := by
  induction pieces generalizing start with
  | nil => exact (Except.ok.inj h).symm
  | cons piece rest ih =>
    obtain ⟨-, -, next, hnext, hrest⟩ := (lead_cons_eq_ok_iff start place piece rest).mp h
    rw [pieceLeads_idle start piece (hidle piece (by simp))] at hnext
    obtain rfl := Except.ok.inj hnext
    exact ih start (fun i hi => hidle i (by simp [hi])) hrest

/-- Below what is missing everything is, and there is no other way than further down. -/
theorem lead_of_missing (hlook : look.Grounded) (start place : Location) (pieces : List String)
    (hmissing : look start = none) (h : look.lead start pieces = .ok place) :
    start <+: place ∧ look place = none := by
  induction pieces generalizing start with
  | nil =>
    obtain rfl := Except.ok.inj h
    exact ⟨List.prefix_refl start, hmissing⟩
  | cons piece rest ih =>
    obtain ⟨-, hback, next, hnext, hrest⟩ := (lead_cons_eq_ok_iff start place piece rest).mp h
    cases hidle : isIdle piece with
    | true =>
      rw [pieceLeads_idle start piece hidle] at hnext
      obtain rfl := Except.ok.inj hnext
      exact ih start hmissing hrest
    | false =>
      obtain ⟨rfl, -⟩ := pieceLeads_name start next piece hidle (hback hmissing) hnext
      obtain ⟨hunder, hnone⟩ := ih _ (hlook.missing_append start piece hmissing) hrest
      exact ⟨(List.prefix_append start [piece]).trans hunder, hnone⟩

/-- What a path denotes lies in no file. A file on the way stops the path, and what is missing
lies in something that is no file either, by induction on the pieces. -/
theorem lead_in_no_file (start place : Location) (pieces : List String)
    (hstart : ∀ other, other <+: start → other ≠ start →
      ∀ content, look other ≠ some (.file content))
    (h : look.lead start pieces = .ok place) :
    ∀ other, other <+: place → other ≠ place → ∀ content, look other ≠ some (.file content) := by
  induction pieces generalizing start with
  | nil =>
    obtain rfl := Except.ok.inj h
    exact hstart
  | cons piece rest ih =>
    obtain ⟨hfile, hback, next, hnext, hrest⟩ := (lead_cons_eq_ok_iff start place piece rest).mp h
    refine ih next ?_ hrest
    have hwhole : ∀ other, other <+: start → ∀ content, look other ≠ some (.file content) := by
      intro other hother
      by_cases heq : other = start
      · exact heq ▸ hfile
      · exact hstart other hother heq
    cases hidle : isIdle piece with
    | true =>
      rw [pieceLeads_idle start piece hidle] at hnext
      obtain rfl := Except.ok.inj hnext
      exact hstart
    | false =>
      intro other hother hne content
      by_cases hup : piece = ".."
      · have hthere : look start ≠ none := fun hmissing => hback hmissing hup
        subst hup
        obtain rfl : start.up = next := by simpa [pieceLeads] using hnext
        have hdirectory : look start = some .directory := by
          cases hentry : look start with
          | none => exact absurd hentry hthere
          | some entry =>
            cases entry with
            | directory => rfl
            | file content => exact absurd hentry (hfile content)
        rw [Location.up] at hother hne
        split at hother
        · rename_i hroot
          exact hwhole other (hroot ▸ hother) content
        · split at hother
          · rcases List.prefix_concat_iff.mp hother with heq | hin
            · exact absurd heq (by simp_all)
            · exact hwhole other hin content
          · exact hwhole other (hother.trans (List.dropLast_prefix start)) content
      · obtain ⟨rfl, -⟩ := pieceLeads_name start next piece hidle hup hnext
        rcases List.prefix_concat_iff.mp hother with heq | hin
        · exact absurd heq hne
        · exact hwhole other hin content

/-- Directories that stay, and no file on the way to a place, keep a path to it. New directories
can only be where nothing was, and there the path went on as if they had been there. -/
theorem lead_of_view (hlook : look.Grounded) (start place : Location) (pieces : List String)
    (hdirectories : ∀ other, look other = some .directory → grown other = some .directory)
    (hway : ∀ other, other <+: place → look other = none →
      ∀ content, grown other ≠ some (.file content))
    (h : look.lead start pieces = .ok place) : grown.lead start pieces = .ok place := by
  induction pieces generalizing start with
  | nil => exact h
  | cons piece rest ih =>
    have hmissing := fun hstart => (lead_of_missing hlook start place (piece :: rest) hstart h).1
    obtain ⟨hfile, hback, next, hnext, hrest⟩ := (lead_cons_eq_ok_iff start place piece rest).mp h
    refine (lead_cons_eq_ok_iff start place piece rest).mpr ⟨?_, ?_, next, hnext, ih next hrest⟩
    · intro content hcontent
      cases hstart : look start with
      | none => exact hway start (hmissing hstart) hstart content hcontent
      | some entry =>
        cases entry with
        | directory =>
          rw [hdirectories start hstart] at hcontent
          cases hcontent
        | file held => exact hfile held hstart
    · intro hnone
      cases hstart : look start with
      | none => exact hback hstart
      | some entry =>
        cases entry with
        | directory =>
          rw [hdirectories start hstart] at hnone
          cases hnone
        | file held => exact absurd hstart (hfile held)

/-- The next piece leads on from where nothing is, unless the path ends there. -/
theorem pieceLeads_of_right (place : Location) (piece : String)
    (h : (piece = ".." || isTooLong piece) = false) :
    ∃ next, pieceLeads place piece = .ok next ∧ (next = place ∨ next = place ++ [piece]) := by
  obtain ⟨hback, hshort⟩ : piece ≠ ".." ∧ isTooLong piece = false := by simpa using h
  cases hidle : isIdle piece with
  | true => exact ⟨place, pieceLeads_idle place piece hidle, .inl rfl⟩
  | false =>
    rw [isIdle] at hidle
    refine ⟨place ++ [piece], ?_, .inr rfl⟩
    rw [pieceLeads, if_neg (by simp [hidle]), if_neg hback, if_neg (by simp [hshort])]

/-- Below what is missing a path ends somewhere further down, where nothing is either. -/
theorem follow_of_missing (hlook : look.Grounded) (start : Location) (pieces : List String)
    (hmissing : look start = none) :
    ∃ place, look.follow start pieces = .ok place ∧ start <+: place ∧ look place = none := by
  induction pieces generalizing start with
  | nil => exact ⟨start, rfl, List.prefix_refl start, hmissing⟩
  | cons piece rest ih =>
    cases hwrong : piece = ".." || isTooLong piece with
    | true =>
      refine ⟨start, ?_, List.prefix_refl start, hmissing⟩
      simp only [follow, hmissing, hwrong, if_true]
    | false =>
      obtain ⟨next, hnext, hcases⟩ := pieceLeads_of_right start piece hwrong
      obtain ⟨hunder, hnone⟩ : start <+: next ∧ look next = none := by
        rcases hcases with rfl | rfl
        · exact ⟨List.prefix_refl next, hmissing⟩
        · exact ⟨List.prefix_append start [piece], hlook.missing_append start piece hmissing⟩
      obtain ⟨place, hplace, hin, hend⟩ := ih next hnone
      refine ⟨place, ?_, hunder.trans hin, hend⟩
      simp only [follow, hmissing, hwrong, hnext, bind, Except.bind, Bool.false_eq_true, if_false,
        hplace]

end View

namespace Tree

variable (t : Tree)

theorem walk_cons_of_directory (start : Location) (piece : String) (rest : List String)
    (h : t.lookup start = some .directory) :
    t.walk start (piece :: rest) = (do t.walk (← pieceLeads start piece) rest) := by
  rw [walk, h, pieceLeads]
  simp only
  split
  · rfl
  · split
    · rfl
    · split <;> rfl

/-- A path is followed to the place that it denotes, unless something is missing, and then the
place is too. -/
theorem walk_of_lead (hlook : View.Grounded t.lookup) (start place : Location)
    (pieces : List String) (h : View.lead t.lookup start pieces = .ok place) :
    t.walk start pieces = .ok place ∨
      t.walk start pieces = .error .notFound ∧ t.lookup place = none := by
  induction pieces generalizing start with
  | nil => exact .inl h
  | cons piece rest ih =>
    obtain ⟨hfile, -, next, hnext, hrest⟩ :=
      (View.lead_cons_eq_ok_iff start place piece rest).mp h
    cases hstart : t.lookup start with
    | none =>
      refine .inr ⟨?_, (View.lead_of_missing hlook start place _ hstart h).2⟩
      rw [walk, hstart]
    | some entry =>
      cases entry with
      | directory =>
        rw [t.walk_cons_of_directory start piece rest hstart, hnext]
        exact ih next hrest
      | file content => exact absurd hstart (hfile content)

theorem locate_of_denoted (hlook : View.Grounded t.lookup) (path : String) (place : Location)
    (h : View.denoted t.lookup path = .ok place) :
    t.locate path = .ok place ∨ t.locate path = .error .notFound ∧ t.lookup place = none := by
  rw [View.denoted] at h
  rw [locate]
  cases hstart : startPieces path with
  | error e =>
    rw [hstart] at h
    cases h
  | ok found =>
    rw [hstart] at h
    exact t.walk_of_lead hlook found.1 place found.2 h

theorem walk_of_lead_directory (hlook : View.Grounded t.lookup) (start place : Location)
    (pieces : List String) (h : View.lead t.lookup start pieces = .ok place)
    (hthere : t.lookup place = some .directory) : t.walk start pieces = .ok place := by
  rcases t.walk_of_lead hlook start place pieces h with hwalk | ⟨-, hmissing⟩
  · exact hwalk
  · rw [hthere] at hmissing
    cases hmissing

/-- What is at a place, with the place. -/
def entryAt (place : Location) : Except OsError (Location × Entry) :=
  match t.lookup place with
  | some entry => .ok (place, entry)
  | none => .error .notFound

/-- What is found behind a path is the same whether its pieces are followed in the tree or in
what is at each place. Where something is missing they stop at different places, and at neither
of these is anything found. -/
theorem walk_bind_entryAt (hlook : View.Grounded t.lookup) (start : Location)
    (pieces : List String) :
    t.walk start pieces >>= t.entryAt = View.follow t.lookup start pieces >>= t.entryAt := by
  induction pieces generalizing start with
  | nil => rfl
  | cons piece rest ih =>
    cases hstart : t.lookup start with
    | none =>
      obtain ⟨place, hplace, -, hnone⟩ := View.follow_of_missing hlook start (piece :: rest) hstart
      rw [hplace, walk, hstart]
      simp only [bind, Except.bind, entryAt, hnone]
    | some entry =>
      cases entry with
      | directory =>
        rw [t.walk_cons_of_directory start piece rest hstart, View.follow, hstart]
        cases pieceLeads start piece with
        | error e => rfl
        | ok next => exact ih next
      | file content =>
        rw [walk, View.follow, hstart]

/-- What is found at a path is what is where it ends. -/
theorem find_eq (hlook : View.Grounded t.lookup) (path : String) :
    t.find path = View.followed t.lookup path >>= t.entryAt := by
  have hfind : t.find path = t.locate path >>= t.entryAt := rfl
  rw [hfind, locate, View.followed]
  cases startPieces path with
  | error e => rfl
  | ok found => exact t.walk_bind_entryAt hlook found.1 found.2

end Tree

end Subtitling.Files
