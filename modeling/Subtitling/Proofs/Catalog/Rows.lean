import Mathlib.Data.List.Perm.Basic
import Subtitling.Catalog.Store

/-!
What entries leave in the history. A row has its number from its place and all else from its
entry, so the same entries in another order leave the same rows under other numbers, and the same
numbers.
-/

namespace Subtitling.Catalog

def Row.withoutId (r : Row) : Row := { r with id := 0 }

namespace Store

theorem nextId_eq_of_ids (s other : Store) (h : s.history.map Row.id = other.history.map Row.id) :
    s.nextId = other.nextId := by
  rw [nextId, nextId]
  cases hs : s.history with
  | nil =>
    rw [hs, List.map_nil] at h
    rw [List.map_eq_nil_iff.mp h.symm]
  | cons row rest =>
    cases hother : other.history with
    | nil => simp [hs, hother] at h
    | cons later more =>
      rw [hs, hother, List.map_cons, List.map_cons] at h
      exact congrArg Nat.succ (List.cons.inj h).1

section
variable (s : Store) (entries : List Entry)

/-- Entries are added to the history, and nothing else changes. -/
theorem records_addEntries :
    (entries.foldl addEntry s).episodes = s.episodes ∧
      (entries.foldl addEntry s).movies = s.movies := by
  induction entries generalizing s with
  | nil => exact ⟨rfl, rfl⟩
  | cons e rest ih => exact ih (s.addEntry e)

theorem item_addEntries (ref : Media.Ref) : (entries.foldl addEntry s).item? ref = s.item? ref := by
  obtain ⟨hepisodes, hmovies⟩ := s.records_addEntries entries
  cases ref <;> simp only [item?, episode?, movie?, hepisodes, hmovies]

theorem rows_addEntries :
    (entries.foldl addEntry s).history.map Row.withoutId =
      (entries.reverse.map fun e => e.row 0) ++ s.history.map Row.withoutId := by
  induction entries generalizing s with
  | nil => rfl
  | cons e rest ih =>
    rw [List.foldl_cons, ih, List.reverse_cons, List.map_append, List.append_assoc]
    rfl

/-- Which numbers the rows have depends on how many there are. -/
theorem ids_addEntries (other : Store) (more : List Entry)
    (h : s.history.map Row.id = other.history.map Row.id) (hlength : entries.length = more.length) :
    (entries.foldl addEntry s).history.map Row.id =
      (more.foldl addEntry other).history.map Row.id := by
  induction entries generalizing s other more with
  | nil =>
    obtain rfl := List.length_eq_zero_iff.mp hlength.symm
    exact h
  | cons e rest ih =>
    obtain ⟨d, others, rfl⟩ := List.exists_cons_of_length_eq_add_one hlength.symm
    apply ih (s.addEntry e) (other.addEntry d) others
    · have hnext := s.nextId_eq_of_ids other h
      simp only [addEntry, addRow, Entry.row, List.map_cons, hnext, h]
    · simpa using hlength

/-- The same entries leave the same rows in whatever order they come, and the same numbers. -/
theorem history_of_perm (more : List Entry) (h : entries.Perm more) :
    ((entries.foldl addEntry s).history.map Row.withoutId).Perm
        ((more.foldl addEntry s).history.map Row.withoutId) ∧
      (entries.foldl addEntry s).history.map Row.id =
        (more.foldl addEntry s).history.map Row.id := by
  constructor
  · have hreverse : entries.reverse.Perm more.reverse :=
      entries.reverse_perm.trans (h.trans more.reverse_perm.symm)
    rw [rows_addEntries, rows_addEntries]
    exact (hreverse.map _).append_right _
  · exact s.ids_addEntries entries s more rfl h.length_eq

end

end Store

end Subtitling.Catalog
