import Mathlib.Data.List.Induction
import Subtitling.Subtitle.Track

/-!
Putting lines in. Whatever the order and the positions of the lines, a cue gets the text of the last
line that is for it, and a cue without such a line stays as it is, formatting included. Numbers and
times are never touched, and lines for different cues may be put in in any order.
-/

namespace Subtitling.Subtitle

/-- Whether a line is for the cue at an index: its position is that index, and it says something. -/
def Line.isFor (line : Line) (i : Nat) : Bool := !line.text.isEmpty && line.position == i

/-- The last of some lines that is for the cue at an index. -/
def lastFor? (lines : List Line) (i : Nat) : Option Line := (lines.filter (·.isFor i)).getLast?

/-- The cue at an index with the text of the last line for it, if there is one. -/
def Cue.spliced (c : Cue) (lines : List Line) (i : Nat) : Cue :=
  match lastFor? lines i with
  | some line => { c with text := line.text }
  | none => c

theorem lastFor_append_singleton (lines : List Line) (line : Line) (i : Nat) :
    lastFor? (lines ++ [line]) i = if line.isFor i then some line else lastFor? lines i := by
  cases h : line.isFor i with
  | true => simp [lastFor?, List.filter_append, h]
  | false => simp [lastFor?, List.filter_append, h]

theorem Cue.spliced_append_singleton (c : Cue) (lines : List Line) (line : Line) (i : Nat) :
    c.spliced (lines ++ [line]) i =
      if line.isFor i then { c.spliced lines i with text := line.text } else c.spliced lines i := by
  simp only [Cue.spliced, lastFor_append_singleton]
  cases line.isFor i with
  | true => cases lastFor? lines i <;> rfl
  | false => rfl

theorem Track.targetOf_eq_some_iff (line : Line) (count i : Nat) :
    targetOf? line count = some i ↔ line.isFor i = true ∧ i < count := by
  simp only [targetOf?, Line.isFor, Bool.and_eq_true, Bool.not_eq_true', beq_iff_eq]
  cases hempty : line.text.isEmpty with
  | true => simp
  | false =>
    simp only [Bool.false_eq_true, if_false, true_and]
    split
    · rename_i hin
      rw [Option.some.injEq]
      omega
    · rename_i hout
      simp only [reduceCtorEq, false_iff]
      omega

/-- Putting one more line in. -/
theorem Track.toList_spliceCues (cues : Array Cue) (line : Line) (count : Nat) :
    (spliceCues count cues line).toList =
      match targetOf? line count with
      | some i => cues.toList.modify i fun c => { c with text := line.text }
      | none => cues.toList := by
  cases h : targetOf? line count <;> simp [spliceCues, h]

/-- Lines put in one after the other come to each cue with the last line that was for it. The
cues keep their number and their order, so each can be looked at on its own. -/
theorem Track.foldl_spliceCues (cues : List Cue) (lines : List Line) :
    (lines.foldl (spliceCues cues.length) cues.toArray).toList =
      cues.mapIdx fun i c => c.spliced lines i := by
  -- The lines are taken from the back, where the last of them decides.
  induction lines using List.reverseRecOn with
  | nil =>
    apply List.ext_getElem?
    intro i
    simp [Cue.spliced, lastFor?]
  | append_singleton lines line ih =>
    rw [List.foldl_append, List.foldl_cons, List.foldl_nil, toList_spliceCues, ih]
    apply List.ext_getElem?
    intro i
    have hfor := targetOf_eq_some_iff line cues.length i
    cases htarget : targetOf? line cues.length with
    | none =>
      simp only [List.getElem?_mapIdx, Cue.spliced_append_singleton]
      cases hcue : cues[i]? with
      | none => rfl
      | some c =>
        have hi := (List.getElem?_eq_some_iff.mp hcue).1
        simp_all
    | some k =>
      simp only [List.getElem?_modify, List.getElem?_mapIdx, Cue.spliced_append_singleton]
      cases hcue : cues[i]? with
      | none => rfl
      | some c =>
        have hi := (List.getElem?_eq_some_iff.mp hcue).1
        by_cases hk : k = i
        · simp_all
        · have hnot : line.isFor i = false := by simp_all
          simp [hk, hnot]

/-- Each cue is spliced on its own, and nothing else changes. -/
theorem Track.cues_splice (t : Track) (lines : List Line) :
    (t.splice lines).cues = t.cues.mapIdx fun i c => c.spliced lines i :=
  foldl_spliceCues t.cues lines

/-- Puts a line in and counts it, both at once. -/
def Track.spliceCounting (count : Nat) (state : Array Cue × Nat) (line : Line) : Array Cue × Nat :=
  match targetOf? line count with
  | some i => (state.1.modify i fun c => { c with text := line.text }, state.2 + 1)
  | none => state

theorem Track.foldl_spliceCounting (count : Nat) (cues : Array Cue) (n : Nat) (lines : List Line) :
    lines.foldl (spliceCounting count) (cues, n) =
      (lines.foldl (spliceCues count) cues,
        n + lines.countP fun line => (targetOf? line count).isSome) := by
  induction lines generalizing cues n with
  | nil => rfl
  | cons line rest ih =>
    rw [List.foldl_cons, List.foldl_cons, List.countP_cons, spliceCounting, spliceCues]
    cases targetOf? line count with
    | none => exact ih cues n
    | some i =>
      simp only [ih, Option.isSome_some, if_true]
      rw [Nat.add_assoc, Nat.add_comm 1]

/-- Where no two lines that say something have one position, at most one is for a cue. A second
line for it would have the same position as the first. -/
theorem length_filter_isFor_le (lines : List Line)
    (h : (lines.filter fun line => !line.text.isEmpty).Pairwise fun a b => a.position ≠ b.position)
    (i : Nat) : (lines.filter (·.isFor i)).length ≤ 1 := by
  have hfilled : lines.filter (·.isFor i) =
      (lines.filter fun line => !line.text.isEmpty).filter fun line =>
        line.position == (i : Int) := by
    rw [List.filter_filter]
    exact List.filter_congr fun line _ => Bool.and_comm _ _
  have hplaced : ∀ line ∈ lines.filter (·.isFor i), line.position = i := by
    intro line hline
    rw [hfilled] at hline
    simpa using (List.mem_filter.mp hline).2
  have hapart : (lines.filter (·.isFor i)).Pairwise fun a b => a.position ≠ b.position := by
    rw [hfilled]
    exact h.filter _
  cases hfor : lines.filter (·.isFor i) with
  | nil => exact Nat.zero_le 1
  | cons first rest =>
    rw [hfor] at hapart hplaced
    cases rest with
    | nil => exact Nat.le_refl 1
    | cons second more =>
      have hne := (List.pairwise_cons.mp hapart).1 second (by simp)
      rw [hplaced first (by simp), hplaced second (by simp)] at hne
      exact absurd rfl hne

theorem lastFor_perm (lines others : List Line) (hperm : lines.Perm others)
    (h : (lines.filter fun line => !line.text.isEmpty).Pairwise fun a b => a.position ≠ b.position)
    (i : Nat) : lastFor? lines i = lastFor? others i := by
  have hfew := length_filter_isFor_le lines h i
  have hfor := hperm.filter (·.isFor i)
  rw [lastFor?, lastFor?]
  cases hlines : lines.filter (·.isFor i) with
  | nil =>
    rw [hlines] at hfor
    rw [List.nil_perm.mp hfor]
  | cons first rest =>
    rw [hlines] at hfor hfew
    obtain rfl : rest = [] :=
      List.length_eq_zero_iff.mp (Nat.le_zero.mp (Nat.le_of_succ_le_succ hfew))
    rw [List.singleton_perm.mp hfor]

/-- The text of a cue at an index, once lines were put in: that of the last line which has that
position and says something, or else the old one. -/
def Line.Gives (lines : List Line) (i : Nat) (old text : String) : Prop :=
  (∃ front line back, lines = front ++ line :: back ∧ line.position = (i : Int) ∧ line.text ≠ "" ∧
      (∀ later ∈ back, later.position = (i : Int) → later.text = "") ∧ text = line.text) ∨
    (∀ line ∈ lines, line.position = (i : Int) → line.text = "") ∧ text = old

theorem Line.isFor_eq_true_iff (line : Line) (i : Nat) :
    line.isFor i = true ↔ line.position = i ∧ line.text ≠ "" := by
  rw [isFor, Bool.and_eq_true, Bool.not_eq_true', beq_iff_eq, and_comm, Bool.eq_false_iff, Ne,
    String.isEmpty_iff]

/-- The text of a cue after some lines is that of the last of them for it, and stays as it was
where there is none. -/
theorem Line.gives_spliced (lines : List Line) (i : Nat) (c : Cue) :
    Gives lines i c.text (c.spliced lines i).text := by
  induction lines using List.reverseRecOn with
  | nil => exact .inr ⟨nofun, rfl⟩
  | append_singleton lines line ih =>
    rw [Cue.spliced_append_singleton]
    cases hfor : line.isFor i with
    | true =>
      obtain ⟨hposition, htext⟩ := (line.isFor_eq_true_iff i).mp hfor
      exact .inl ⟨lines, line, [], rfl, hposition, htext, nofun, rfl⟩
    | false =>
      have hempty : line.position = i → line.text = "" := by
        intro hposition
        by_contra htext
        rw [(line.isFor_eq_true_iff i).mpr ⟨hposition, htext⟩] at hfor
        cases hfor
      rcases ih with ⟨front, found, back, rfl, hposition, htext, hback, heq⟩ | ⟨hnone, heq⟩
      · refine .inl ⟨front, found, back ++ [line], by simp, hposition, htext, ?_, heq⟩
        intro later hlater
        rcases List.mem_append.mp hlater with hin | hlast
        · exact hback later hin
        · exact List.mem_singleton.mp hlast ▸ hempty
      · refine .inr ⟨fun other hother => ?_, heq⟩
        rcases List.mem_append.mp hother with hin | hlast
        · exact hnone other hin
        · exact List.mem_singleton.mp hlast ▸ hempty

namespace Track

theorem countSpliced_eq (t : Track) (lines : List Line) :
    t.countSpliced lines = lines.countP fun line =>
      decide (line.text ≠ "" ∧ 0 ≤ line.position ∧ line.position < (t.cues.length : Int)) := by
  rw [countSpliced]
  apply List.countP_congr
  intro line _
  rw [decide_eq_true_iff, Option.isSome_iff_exists]
  simp only [targetOf_eq_some_iff, Line.isFor_eq_true_iff]
  constructor
  · rintro ⟨i, ⟨hposition, htext⟩, hi⟩
    exact ⟨htext, by omega, by omega⟩
  · rintro ⟨htext, hlow, hhigh⟩
    exact ⟨line.position.toNat, ⟨by omega, htext⟩, by omega⟩

/-- Whatever lines are put in, each cue keeps its number and its times and gets the text of the
last line for it, if there is one; the lines that were put in are those that say something to a
cue that there is; and where no two of them are for one cue their order makes no difference. -/
theorem last_line_wins (t : Track) (lines : List Line) :
    (t.splice lines).source = t.source ∧ (t.splice lines).cues.length = t.cues.length ∧
      (∀ (i : Nat) (c : Cue), t.cues[i]? = some c → ∃ text,
        (t.splice lines).cues[i]? = some ⟨c.number, c.start, c.stop, text⟩ ∧
          Line.Gives lines i c.text text) ∧
      lines.foldl (spliceCounting t.cues.length) (t.cues.toArray, 0) =
        ((t.splice lines).cues.toArray, t.countSpliced lines) ∧
      t.countSpliced lines = (lines.countP fun line =>
        decide (line.text ≠ "" ∧ 0 ≤ line.position ∧ line.position < (t.cues.length : Int))) ∧
      ∀ others, lines.Perm others →
        ((lines.filter fun line => !line.text.isEmpty).Pairwise fun a b =>
          a.position ≠ b.position) →
          t.splice others = t.splice lines := by
  refine ⟨rfl, ?_, fun i c hc => ?_, ?_, t.countSpliced_eq lines, fun others hperm hapart => ?_⟩
  · rw [cues_splice, List.length_mapIdx]
  · refine ⟨(c.spliced lines i).text, ?_, Line.gives_spliced lines i c⟩
    rw [cues_splice, List.getElem?_mapIdx, hc, Option.map_some, Cue.spliced]
    cases lastFor? lines i <;> rfl
  · rw [foldl_spliceCounting, Nat.zero_add, countSpliced]
    rfl
  · have hcues : (t.splice others).cues = (t.splice lines).cues := by
      rw [cues_splice, cues_splice]
      refine List.mapIdx_eq_mapIdx_iff.mpr fun i hi => ?_
      rw [Cue.spliced, Cue.spliced, lastFor_perm lines others hperm hapart i]
    rw [splice, splice, Track.mk.injEq]
    exact ⟨rfl, hcues⟩

/-- Three cues, of which one has formatting. -/
def threeCues : Track :=
  ⟨"x.srt", [⟨1, 1000, 2500, "<i>Hello</i> there"⟩, ⟨2, 3000, 4000, "Top line"⟩,
    ⟨3, 5000, 6000, "Bye"⟩]⟩

/-- Lines at the edges: the last cue, the first index that no cue has, one below nothing, an
empty one. -/
def edgeLines : List Line := [⟨2, "Salut"⟩, ⟨3, "ghost"⟩, ⟨-1, "below"⟩, ⟨0, ""⟩]

theorem last_line_wins_edgeLines :
    threeCues.cues[2]? = some ⟨3, 5000, 6000, "Bye"⟩ ∧
      (∃ text, (threeCues.splice edgeLines).cues[2]? = some ⟨3, 5000, 6000, text⟩ ∧
        Line.Gives edgeLines 2 "Bye" text) ∧
      edgeLines.Perm edgeLines.reverse ∧
      (edgeLines.filter fun line => !line.text.isEmpty).Pairwise
        (fun a b => a.position ≠ b.position) ∧
      threeCues.splice edgeLines.reverse = threeCues.splice edgeLines := by
  have hperm : edgeLines.Perm edgeLines.reverse := (List.reverse_perm edgeLines).symm
  have hapart : (edgeLines.filter fun line => !line.text.isEmpty).Pairwise
      fun a b => a.position ≠ b.position := by decide
  obtain ⟨-, -, hcues, -, -, horder⟩ := threeCues.last_line_wins edgeLines
  exact ⟨rfl, hcues 2 _ rfl, hperm, hapart, horder edgeLines.reverse hperm hapart⟩

end Track

end Subtitling.Subtitle
