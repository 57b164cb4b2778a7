import Subtitling.Text.Pieces

/-!
Pieces between separators. Cutting goes separator by separator: what stands behind one is cut on its
own, and a text without separators is one piece.
-/

namespace Subtitling.Text

variable {α : Type} (p : α → Bool)

theorem splitWhen_ne_nil (xs : List α) : splitWhen p xs ≠ [] := by
  cases xs with
  | nil => simp [splitWhen]
  | cons x rest =>
    rw [splitWhen]
    split
    · simp
    · split <;> simp

theorem splitWhen_of_none (xs : List α) (h : ∀ x ∈ xs, p x = false) : splitWhen p xs = [xs] := by
  induction xs with
  | nil => rfl
  | cons x rest ih =>
    have hx : p x = false := h x (by simp)
    have hrest := ih fun y hy => h y (by simp [hy])
    simp [splitWhen, hx, hrest]

theorem splitWhen_of_not_mem [BEq α] [LawfulBEq α] (sep : α) (xs : List α) (h : sep ∉ xs) :
    splitWhen (· == sep) xs = [xs] := by
  apply splitWhen_of_none
  intro x hx
  rw [beq_eq_false_iff_ne]
  exact fun heq => h (heq ▸ hx)

theorem splitWhen_append_cons (xs ys : List α) (x : α) (h : p x = true) :
    splitWhen p (xs ++ x :: ys) = splitWhen p xs ++ splitWhen p ys := by
  induction xs with
  | nil => simp [splitWhen, h]
  | cons y rest ih =>
    cases hy : p y with
    | true => simp [splitWhen, hy, ih]
    | false =>
      simp only [List.cons_append, splitWhen, hy, Bool.false_eq_true, if_false, ih]
      cases hpieces : splitWhen p rest with
      | nil => exact absurd hpieces (splitWhen_ne_nil p rest)
      | cons piece more => rfl

/-- The first piece goes up to the first separator. -/
theorem exists_splitWhen_eq (xs : List α) :
    ∃ more, splitWhen p xs = xs.takeWhile (fun x => !p x) :: more := by
  induction xs with
  | nil => exact ⟨[], rfl⟩
  | cons x rest ih =>
    obtain ⟨more, hrest⟩ := ih
    rw [splitWhen]
    cases hx : p x with
    | true => exact ⟨splitWhen p rest, by simp [hx]⟩
    | false => exact ⟨more, by simp [hx, hrest]⟩

/-- All that is in a piece was in the list, and none of it is a separator. -/
theorem mem_of_mem_splitWhen (xs piece : List α) (h : piece ∈ splitWhen p xs) (x : α)
    (hx : x ∈ piece) : x ∈ xs ∧ p x = false := by
  induction xs generalizing piece with
  | nil => simp_all [splitWhen]
  | cons y rest ih =>
    rw [splitWhen] at h
    split at h
    · rcases List.mem_cons.mp h with rfl | hrest
      · cases hx
      · obtain ⟨hmem, hp⟩ := ih piece hrest hx
        exact ⟨List.mem_cons_of_mem y hmem, hp⟩
    · rename_i hy
      split at h
      · rename_i hnil
        exact absurd hnil (splitWhen_ne_nil p rest)
      · rename_i first more hpieces
        rcases List.mem_cons.mp h with rfl | hmore
        · rcases List.mem_cons.mp hx with rfl | hfirst
          · exact ⟨by simp, Bool.eq_false_iff.mpr hy⟩
          · obtain ⟨hmem, hp⟩ := ih first (by simp [hpieces]) hfirst
            exact ⟨List.mem_cons_of_mem y hmem, hp⟩
        · obtain ⟨hmem, hp⟩ := ih piece (by simp [hpieces, hmore]) hx
          exact ⟨List.mem_cons_of_mem y hmem, hp⟩

/-- No piece is longer than the list that was cut. -/
theorem length_le_of_mem_splitWhen (xs piece : List α) (h : piece ∈ splitWhen p xs) :
    piece.length ≤ xs.length := by
  induction xs generalizing piece with
  | nil => simp_all [splitWhen]
  | cons x rest ih =>
    rw [List.length_cons]
    rw [splitWhen] at h
    split at h
    · rcases List.mem_cons.mp h with rfl | hrest
      · exact Nat.zero_le _
      · exact Nat.le_succ_of_le (ih piece hrest)
    · split at h
      · rename_i hnil
        exact absurd hnil (splitWhen_ne_nil p rest)
      · rename_i first more hpieces
        rcases List.mem_cons.mp h with rfl | hmore
        · exact Nat.succ_le_succ (ih first (by simp [hpieces]))
        · exact Nat.le_succ_of_le (ih piece (by simp [hpieces, hmore]))

/-- A list that is one piece is that piece. -/
theorem eq_of_splitWhen (xs piece : List α) (h : splitWhen p xs = [piece]) : xs = piece := by
  induction xs generalizing piece with
  | nil => simpa [splitWhen] using h
  | cons x rest ih =>
    rw [splitWhen] at h
    split at h
    · exact absurd (List.cons.inj h).2 (splitWhen_ne_nil p rest)
    · split at h
      · rename_i hnil
        exact absurd hnil (splitWhen_ne_nil p rest)
      · rename_i first more hpieces
        obtain ⟨rfl, rfl⟩ := List.cons.inj h
        rw [ih first hpieces]

/-- Behind the first of several pieces stands a separator, and the others are those of what
follows. -/
theorem exists_append_of_splitWhen (xs first second : List α) (more : List (List α))
    (h : splitWhen p xs = first :: second :: more) :
    ∃ x rest, p x = true ∧ xs = first ++ x :: rest ∧ splitWhen p rest = second :: more := by
  induction xs generalizing first with
  | nil => simp [splitWhen] at h
  | cons y ys ih =>
    rw [splitWhen] at h
    split at h
    · rename_i hy
      obtain ⟨rfl, hrest⟩ := List.cons.inj h
      exact ⟨y, ys, hy, rfl, hrest⟩
    · split at h
      · simp at h
      · rename_i piece others hpieces
        obtain ⟨rfl, rfl⟩ := List.cons.inj h
        obtain ⟨x, rest, hx, rfl, hrest⟩ := ih piece hpieces
        exact ⟨x, rest, hx, rfl, hrest⟩

end Subtitling.Text
