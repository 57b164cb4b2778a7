import Mathlib.Data.List.Induction
import Mathlib.Data.String.Basic
import Subtitling.Json.Value

/-!
The fields of an object. However its fields are listed, an object has each key once, in rising
order, and under a key it has the value that was listed last.
-/

namespace Subtitling.Json

section

variable {α : Type}

/-- The keys rise, so none occurs twice. -/
def Rising (fields : List (String × α)) : Prop := fields.Pairwise fun a b => a.1 < b.1

theorem lookup_cons_eq (key other : String) (value : α) (rest : List (String × α)) :
    List.lookup other ((key, value) :: rest) =
      if other = key then some value else rest.lookup other := by
  rw [List.lookup_cons]
  by_cases h : other = key
  · rw [if_pos h, beq_iff_eq.mpr h]
  · rw [if_neg h, beq_eq_false_iff_ne.mpr h]

/-- What is under a key once a field was put in. The field takes the place of one with its key
and hides no other. -/
theorem lookup_insertField (key other : String) (value : α) (fields : List (String × α)) :
    (insertField key value fields).lookup other =
      if other = key then some value else fields.lookup other := by
  induction fields with
  | nil => rw [insertField, lookup_cons_eq]
  | cons field rest ih =>
    obtain ⟨k, v⟩ := field
    rw [insertField]
    split
    · rename_i hkey
      subst hkey
      rw [lookup_cons_eq, lookup_cons_eq]
      split <;> rfl
    · rename_i hkey
      split
      · rw [lookup_cons_eq]
      · rw [lookup_cons_eq, lookup_cons_eq, ih]
        by_cases hother : other = key
        · rw [if_pos hother, if_pos hother, if_neg (hother ▸ hkey)]
        · rw [if_neg hother, if_neg hother]

/-- Which fields there are once one was put in: that one and some of those from before. -/
theorem mem_insertField (key : String) (value : α) (fields : List (String × α)) (field : String × α)
    (h : field ∈ insertField key value fields) : field = (key, value) ∨ field ∈ fields := by
  induction fields with
  | nil => exact .inl (by simpa [insertField] using h)
  | cons first rest ih =>
    obtain ⟨k, v⟩ := first
    rw [insertField] at h
    split at h
    · rcases List.mem_cons.mp h with rfl | h
      · exact .inl rfl
      · exact .inr (List.mem_cons_of_mem _ h)
    · split at h
      · rcases List.mem_cons.mp h with rfl | h
        · exact .inl rfl
        · exact .inr h
      · rcases List.mem_cons.mp h with rfl | h
        · exact .inr (List.mem_cons_self ..)
        · exact (ih h).imp id (List.mem_cons_of_mem _)

/-- A field put in at its place leaves the keys in rising order, each once. This is what makes
objects with the same fields the same object. -/
theorem rising_insertField (key : String) (value : α) (fields : List (String × α))
    (h : Rising fields) : Rising (insertField key value fields) := by
  induction fields with
  | nil => exact List.pairwise_singleton _ _
  | cons first rest ih =>
    obtain ⟨k, v⟩ := first
    obtain ⟨hfirst, hrest⟩ := List.pairwise_cons.mp h
    rw [insertField]
    split
    · rename_i hkey
      subst hkey
      exact List.pairwise_cons.mpr ⟨hfirst, hrest⟩
    · rename_i hkey
      split
      · rename_i hless
        refine List.pairwise_cons.mpr ⟨fun field hfield => ?_, h⟩
        rcases List.mem_cons.mp hfield with rfl | hfield
        · exact hless
        · exact lt_trans hless (hfirst field hfield)
      · rename_i hless
        refine List.pairwise_cons.mpr ⟨fun field hfield => ?_, ih hrest⟩
        rcases mem_insertField key value rest field hfield with rfl | hfield
        · exact lt_of_le_of_ne (le_of_not_gt hless) (Ne.symm hkey)
        · exact hfirst field hfield

theorem sortFields_append_singleton (fields : List (String × α)) (field : String × α) :
    sortFields (fields ++ [field]) = insertField field.1 field.2 (sortFields fields) := by
  simp [sortFields, List.foldl_append]

theorem rising_sortFields (fields : List (String × α)) : Rising (sortFields fields) := by
  induction fields using List.reverseRecOn with
  | nil => exact .nil
  | append_singleton rest field ih =>
    rw [sortFields_append_singleton]
    exact rising_insertField field.1 field.2 _ ih

theorem lookup_sortFields (fields : List (String × α)) (key : String) :
    (sortFields fields).lookup key = fields.reverse.lookup key := by
  induction fields using List.reverseRecOn with
  | nil => rfl
  | append_singleton rest field ih =>
    rw [sortFields_append_singleton, lookup_insertField, ih, List.reverse_append]
    exact (lookup_cons_eq field.1 key field.2 rest.reverse).symm

end

end Subtitling.Json
