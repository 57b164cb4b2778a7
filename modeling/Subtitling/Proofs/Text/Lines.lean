import Subtitling.Proofs.Text.Blank
import Subtitling.Proofs.Text.Split
import Subtitling.Text.Pieces

/-!
Lines and their breaks. A text consists of its lines and of nothing else but the breaks behind
them, and no line has a line feed in it. Once lines are trimmed it does not matter which break
they end at, so that a text may as well be cut at its line feeds, and lines that have none come
back from a text that was written line by line.
-/

namespace Subtitling.Text

/-- No line holds the line feed that it ends at, nor any other. A carriage return can be in a
line, and only one right before a line feed goes with the break. -/
theorem not_mem_of_mem_lines (cs line : List Char) (h : line ∈ lines cs) : '\n' ∉ line := by
  induction cs using lines.induct generalizing line with
  | case1 => simp [lines] at h
  | case2 rest ih | case3 rest ih =>
    rw [lines, List.mem_cons] at h
    rcases h with rfl | hrest
    · simp
    · exact ih line hrest
  | case4 c rest hfeed hreturn hnil ih =>
    rw [lines, hnil, List.mem_singleton] at h
    · rw [h, List.mem_singleton]
      exact fun hc => hfeed hc.symm
    · exact hfeed
    · exact hreturn
  | case5 c rest hfeed hreturn first more hcons ih =>
    rw [lines, hcons, List.mem_cons] at h
    · rcases h with rfl | hmore
      · have hfirst : '\n' ∉ first := ih first (by simp [hcons])
        rw [List.mem_cons, not_or]
        exact ⟨fun hc => hfeed hc.symm, hfirst⟩
      · exact ih line (by simp [hcons, hmore])
    · exact hfeed
    · exact hreturn

/-- A line up to its break, and what is behind it on its own. -/
theorem lines_append_cons (line rest : List Char) (hfeed : '\n' ∉ line)
    (hreturn : line.getLast? ≠ some '\r') : lines (line ++ '\n' :: rest) = line :: lines rest := by
  induction line with
  | nil => simp [lines]
  | cons c more ih =>
    rw [List.mem_cons, not_or] at hfeed
    have hmore : lines (more ++ '\n' :: rest) = more :: lines rest := by
      apply ih hfeed.2
      intro hlast
      exact hreturn (by simp [List.getLast?_cons, hlast])
    have hordinary : ∀ after, c = '\r' → more ++ '\n' :: rest ≠ '\n' :: after := by
      rintro after rfl heq
      cases more with
      | nil => exact hreturn rfl
      | cons d others =>
        obtain ⟨rfl, -⟩ := List.cons.inj heq
        exact hfeed.2 (by simp)
    rw [List.cons_append, lines.eq_4 c _ (fun hc => hfeed.1 hc.symm) hordinary, hmore]

theorem lines_append_return (line rest : List Char) (hfeed : '\n' ∉ line) :
    lines (line ++ '\r' :: '\n' :: rest) = line :: lines rest := by
  induction line with
  | nil => simp [lines]
  | cons c more ih =>
    rw [List.mem_cons, not_or] at hfeed
    have hordinary : ∀ after, c = '\r' → more ++ '\r' :: '\n' :: rest ≠ '\n' :: after := by
      rintro after - heq
      cases more with
      | nil => exact absurd (List.cons.inj heq).1 (by decide)
      | cons d others =>
        obtain ⟨rfl, -⟩ := List.cons.inj heq
        exact hfeed.2 (by simp)
    rw [List.cons_append, lines.eq_4 c _ (fun hc => hfeed.1 hc.symm) hordinary, ih hfeed.2]

theorem lines_of_not_mem (line : List Char) (hfeed : '\n' ∉ line) (hsome : line ≠ []) :
    lines line = [line] := by
  induction line with
  | nil => exact absurd rfl hsome
  | cons c rest ih =>
    rw [List.mem_cons, not_or] at hfeed
    have hordinary : ∀ after, c = '\r' → rest ≠ '\n' :: after := by
      rintro after - rfl
      exact hfeed.2 (by simp)
    rw [lines.eq_4 c _ (fun hc => hfeed.1 hc.symm) hordinary]
    cases rest with
    | nil => rfl
    | cons d more => rw [ih hfeed.2 (by simp)]

/-- A line up to its break, whichever that is, and what is behind it on its own. -/
theorem map_trim_lines_append_cons (line rest : List Char) (hfeed : '\n' ∉ line) :
    (lines (line ++ '\n' :: rest)).map trim = trim line :: (lines rest).map trim := by
  by_cases hreturn : line.getLast? = some '\r'
  · obtain ⟨front, rfl⟩ := List.getLast?_eq_some_iff.mp hreturn
    have hfront : '\n' ∉ front := fun hmem => hfeed (by simp [hmem])
    rw [List.append_assoc, List.singleton_append, lines_append_return front rest hfront,
      trim_append_singleton front '\r' (by decide), List.map_cons]
  · rw [lines_append_cons line rest hfeed hreturn, List.map_cons]

/-- A text is one line, or a line with a feed and another text behind it. -/
@[elab_as_elim]
theorem feeds_induction {motive : List Char → Prop} (last : ∀ line, '\n' ∉ line → motive line)
    (feed : ∀ line rest, '\n' ∉ line → motive rest → motive (line ++ '\n' :: rest))
    (cs : List Char) :
    motive cs := by
  induction hlength : cs.length using Nat.strongRecOn generalizing cs with
  | ind n ih =>
    by_cases hmem : '\n' ∈ cs
    · obtain ⟨line, rest, rfl, hline⟩ := List.eq_append_cons_of_mem hmem
      exact feed line rest hline (ih rest.length (by simp [← hlength]; omega) rest rfl)
    · exact last cs hmem

/-- A text consists of these lines: each but the last ends at a line feed, or at a return and a
feed, which do not belong to it, and the last may end at such a break too or has none behind it.
A return that no feed follows is a character of its line. -/
inductive Lined : List Char → List (List Char) → Prop
  | nil : Lined [] []
  | last (line : List Char) (hsome : line ≠ []) (hfeed : '\n' ∉ line) : Lined line [line]
  | feed (line rest : List Char) (more : List (List Char)) (hfeed : '\n' ∉ line)
      (hreturn : line.getLast? ≠ some '\r') (h : Lined rest more) :
      Lined (line ++ '\n' :: rest) (line :: more)
  | returnFeed (line rest : List Char) (more : List (List Char)) (hfeed : '\n' ∉ line)
      (h : Lined rest more) : Lined (line ++ '\r' :: '\n' :: rest) (line :: more)

theorem lined_lines (cs : List Char) : Lined cs (lines cs) := by
  induction cs using feeds_induction with
  | last line hline =>
    cases line with
    | nil => exact .nil
    | cons c rest =>
      rw [lines_of_not_mem (c :: rest) hline (by simp)]
      exact .last _ (by simp) hline
  | feed line rest hline ih =>
    by_cases hreturn : line.getLast? = some '\r'
    · obtain ⟨front, rfl⟩ := List.getLast?_eq_some_iff.mp hreturn
      have hfront : '\n' ∉ front := fun hmem => hline (by simp [hmem])
      rw [List.append_assoc, List.singleton_append, lines_append_return front rest hfront]
      exact .returnFeed front rest _ hfront ih
    · rw [lines_append_cons line rest hline hreturn]
      exact .feed line rest _ hline hreturn ih

/-- The lines of a text are those that it consists of. -/
theorem lines_eq_iff (cs : List Char) (parts : List (List Char)) :
    lines cs = parts ↔ Lined cs parts := by
  constructor
  · rintro rfl
    exact lined_lines cs
  · intro h
    induction h with
    | nil => rfl
    | last line hsome hfeed => exact lines_of_not_mem line hfeed hsome
    | feed line rest more hfeed hreturn h ih => rw [lines_append_cons line rest hfeed hreturn, ih]
    | returnFeed line rest more hfeed h ih => rw [lines_append_return line rest hfeed, ih]

/-- Trimmed lines are the same wherever lines end, at each line feed or at each break. -/
theorem map_trim_lines_append (cs rest : List Char) :
    (lines (cs ++ '\n' :: rest)).map trim =
      (splitWhen (· == '\n') cs).map trim ++ (lines rest).map trim := by
  induction cs using feeds_induction with
  | last line hline =>
    rw [map_trim_lines_append_cons line rest hline, splitWhen_of_not_mem '\n' line hline]
    rfl
  | feed line more hline ih =>
    rw [List.append_assoc, List.cons_append, map_trim_lines_append_cons line _ hline, ih,
      splitWhen_append_cons _ line more '\n' rfl, splitWhen_of_not_mem '\n' line hline]
    rfl

@[simp] theorem joinLines_nil : joinLines [] = [] := rfl

@[simp] theorem joinLines_singleton (line : List Char) : joinLines [line] = line := by
  simp [joinLines]

theorem joinLines_cons_cons (line next : List Char) (more : List (List Char)) :
    joinLines (line :: next :: more) = line ++ '\n' :: joinLines (next :: more) := by
  simp [joinLines, List.intercalate_cons_cons]

/-- Joined lines are told apart again by the feeds between them. -/
theorem splitWhen_joinLines (first : List Char) (others : List (List Char))
    (h : ∀ line ∈ first :: others, '\n' ∉ line) :
    splitWhen (· == '\n') (joinLines (first :: others)) = first :: others := by
  induction others generalizing first with
  | nil => rw [joinLines_singleton, splitWhen_of_not_mem '\n' first (h first (by simp))]
  | cons next more ih =>
    have hnext := ih next fun line hline => h line (by simp [hline])
    rw [joinLines_cons_cons, splitWhen_append_cons _ _ _ _ rfl,
      splitWhen_of_not_mem '\n' first (h first (by simp)), hnext]
    rfl

end Subtitling.Text
