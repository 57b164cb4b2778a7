import Subtitling.Text.Pieces

/-!
Tags in a text. Whether a bracket opens a tag depends on the text behind it alone: the tag ends
at the nearest bracket that closes it, and without one there is no tag. Hence a bracket that
stays has nothing behind it that could close it, not even after other tags have gone, so that one
pass takes all tags away.
-/

namespace Subtitling.Text

theorem tagCloser_eq_some_iff (opener closer : Char) : tagCloser? opener = some closer ↔
    (opener = '<' ∧ closer = '>') ∨ (opener = '\x7b' ∧ closer = '\x7d') := by
  rw [tagCloser?]
  split
  · rename_i hangle
    subst hangle
    simp [eq_comm]
  · rename_i hangle
    split
    · rename_i hcurly
      simp [hcurly, eq_comm]
    · rename_i hcurly
      simp [hangle, hcurly]

theorem isTagCloser_of_tagCloser {opener closer : Char} (h : tagCloser? opener = some closer) :
    isTagCloser closer = true := by
  rcases (tagCloser_eq_some_iff opener closer).mp h with ⟨-, rfl⟩ | ⟨-, rfl⟩
  · rfl
  · rfl

/-- The pass from the back knows which closing brackets a text holds. So a bracket that opens a
tag is marked just where one that closes it follows somewhere. -/
theorem mem_closers_iff (cs : List Char) (c : Char) :
    c ∈ (markTags cs).2 ↔ isTagCloser c = true ∧ c ∈ cs := by
  induction cs with
  | nil => simp [markTags]
  | cons d rest ih =>
    simp only [markTags, List.mem_cons]
    split
    · rename_i hnew
      simp only [Bool.and_eq_true, Bool.not_eq_true'] at hnew
      rw [List.mem_cons, ih]
      constructor
      · rintro (rfl | ⟨hcloser, hrest⟩)
        · exact ⟨hnew.1, .inl rfl⟩
        · exact ⟨hcloser, .inr hrest⟩
      · rintro ⟨hcloser, rfl | hrest⟩
        · exact .inl rfl
        · exact .inr ⟨hcloser, hrest⟩
    · rename_i hold
      simp only [Bool.and_eq_true, Bool.not_eq_true', not_and, Bool.not_eq_false,
        List.contains_iff_mem] at hold
      rw [ih]
      constructor
      · rintro ⟨hcloser, hrest⟩
        exact ⟨hcloser, .inr hrest⟩
      · rintro ⟨hcloser, rfl | hrest⟩
        · exact ih.mp (hold hcloser)
        · exact ⟨hcloser, hrest⟩

/-- A bracket that its closer does not follow is an ordinary character. -/
theorem closer_eq_none {c : Char} {rest : List Char} (h : ∀ closer ∈ tagCloser? c, closer ∉ rest) :
    (tagCloser? c).filter (markTags rest).2.contains = none := by
  rw [Option.filter_eq_none_iff]
  intro closer hcloser hmem
  exact h closer hcloser ((mem_closers_iff rest closer).mp (List.contains_iff_mem.mp hmem)).2

theorem closer_eq_some {opener closer : Char} {rest : List Char}
    (hcloser : tagCloser? opener = some closer) (h : closer ∈ rest) :
    (tagCloser? opener).filter (markTags rest).2.contains = some closer := by
  have hmem := (mem_closers_iff rest closer).mpr ⟨isTagCloser_of_tagCloser hcloser, h⟩
  rw [Option.filter_eq_some_iff]
  exact ⟨hcloser, List.contains_iff_mem.mpr hmem⟩

variable (fill : List Char)

@[simp] theorem replaceTags_nil : replaceTags fill [] = [] := rfl

/-- Inside a tag all is skipped up to the nearest bracket that closes it. -/
theorem replaceTagsFrom_inside (inner rest : List Char) (closer : Char) (h : closer ∉ inner) :
    replaceTagsFrom fill (some closer) (markTags (inner ++ closer :: rest)).1 =
      replaceTags fill rest := by
  induction inner with
  | nil => simp [markTags, replaceTagsFrom, replaceTags]
  | cons c more ih =>
    rw [List.mem_cons, not_or] at h
    have hc : c ≠ closer := fun heq => h.1 heq.symm
    simp [markTags, replaceTagsFrom, hc, ih h.2]

theorem replaceTags_keep (c : Char) (rest : List Char)
    (h : ∀ closer ∈ tagCloser? c, closer ∉ rest) :
    replaceTags fill (c :: rest) = c :: replaceTags fill rest := by
  simp [replaceTags, markTags, replaceTagsFrom, closer_eq_none h]

theorem replaceTags_tag (opener closer : Char) (inner rest : List Char)
    (hcloser : tagCloser? opener = some closer) (hinner : closer ∉ inner) :
    replaceTags fill (opener :: (inner ++ closer :: rest)) = fill ++ replaceTags fill rest := by
  have hmem : closer ∈ inner ++ closer :: rest := by simp
  have hfound := closer_eq_some hcloser hmem
  simp [replaceTags, markTags, replaceTagsFrom, hfound,
    replaceTagsFrom_inside fill inner rest closer hinner]

/-- `Untagged cs bare` says that `bare` is `cs` without its tags. -/
inductive Untagged : List Char → List Char → Prop
  | nil : Untagged [] []
  /-- A character that opens no tag is kept. -/
  | keep {c : Char} {rest bare : List Char} (hopen : ∀ closer ∈ tagCloser? c, closer ∉ rest)
      (h : Untagged rest bare) : Untagged (c :: rest) (c :: bare)
  /-- A bracket is taken away up to the nearest one that closes it. -/
  | tag {opener closer : Char} {inner rest bare : List Char}
    (hcloser : tagCloser? opener = some closer)
      (hinner : closer ∉ inner) (h : Untagged rest bare) :
      Untagged (opener :: (inner ++ closer :: rest)) bare

/-- Stripping takes away every tag as a whole and leaves none, whichever brackets are inside it.
The marks that were put on opening brackets say which of them are closed by something that
follows. -/
theorem untagged_stripTags (cs : List Char) : Untagged cs (stripTags cs) := by
  induction hlength : cs.length using Nat.strongRecOn generalizing cs with
  | ind n ih =>
    cases cs with
    | nil => exact .nil
    | cons c rest =>
      by_cases hopen : ∃ closer, tagCloser? c = some closer ∧ closer ∈ rest
      · obtain ⟨closer, hcloser, hmem⟩ := hopen
        obtain ⟨inner, behind, rfl, hinner⟩ := List.eq_append_cons_of_mem hmem
        rw [stripTags, replaceTags_tag [] c closer inner behind hcloser hinner]
        refine .tag hcloser hinner (ih behind.length ?_ behind rfl)
        simp only [← hlength, List.length_cons, List.length_append]
        omega
      · have hkept : ∀ closer ∈ tagCloser? c, closer ∉ rest := fun closer hcloser hmem =>
          hopen ⟨closer, hcloser, hmem⟩
        rw [stripTags, replaceTags_keep [] c rest hkept]
        exact .keep hkept (ih rest.length (by simp [← hlength]) rest rfl)

/-- Taking tags away leaves what `Untagged` says, and nothing else. -/
theorem stripTags_eq_iff (cs bare : List Char) : stripTags cs = bare ↔ Untagged cs bare := by
  constructor
  · rintro rfl
    exact untagged_stripTags cs
  · intro h
    induction h with
    | nil => rfl
    | keep hopen _ ih => rw [stripTags, replaceTags_keep [] _ _ hopen, ← stripTags, ih]
    | tag hcloser hinner _ ih =>
      rw [stripTags, replaceTags_tag [] _ _ _ _ hcloser hinner, List.nil_append, ← stripTags, ih]

theorem Untagged.sublist {cs bare : List Char} (h : Untagged cs bare) : bare.Sublist cs := by
  induction h with
  | nil => exact .slnil
  | keep _ _ ih => exact ih.cons_cons _
  | @tag opener closer inner rest bare _ _ _ ih =>
    have hrest : rest.Sublist (inner ++ closer :: rest) :=
      (List.sublist_cons_self closer rest).trans (List.sublist_append_right inner _)
    exact (ih.trans hrest).cons opener

/-- No bracket that is left is closed further behind: what was behind it had no bracket to close
it, and nothing has come in. -/
theorem Untagged.not_sublist {cs bare : List Char} (h : Untagged cs bare) {opener closer : Char}
    (hcloser : tagCloser? opener = some closer) : ¬ [opener, closer].Sublist bare := by
  induction h with
  | nil => simp
  | @keep c rest bare hopen h ih =>
    rw [List.sublist_cons_iff]
    rintro (hlater | ⟨tail, htail, hhere⟩)
    · exact ih hlater
    · obtain ⟨rfl, rfl⟩ := List.cons.inj htail
      have hmem := h.sublist.mem (List.singleton_sublist.mp hhere)
      exact hopen closer hcloser hmem
  | tag _ _ _ ih => exact ih

end Subtitling.Text
