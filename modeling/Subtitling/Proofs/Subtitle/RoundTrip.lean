import Subtitling.Proofs.Subtitle.Rereading
import Subtitling.Proofs.Subtitle.Times

/-!
Writing and reading back. All that a file says about a cue stands in lines that reading does not
change: its number, its times and its text, as long as the text is made of trimmed lines without
gaps between them. Such cues come back as they were, numbered afresh, and every cue that was read
from anywhere has such a text. What the text says does not matter, be it a number or a timing:
where it stands, only text is expected.
-/

namespace Subtitling.Subtitle.Srt

/-- Tidy lines with breaks between them; no lines at all make the empty text. -/
def IsTidyText (text : String) : Prop :=
  ∃ lines, (∀ line ∈ lines, IsTidyLine line) ∧ text.toList = Text.joinLines lines

/-- A cue that comes back as it was written. -/
structure IsTidy (c : Cue) : Prop where
  text : IsTidyText c.text
  start : c.start < hundredHours
  stop : c.stop < hundredHours

theorem trimmedLines_of_tidy (text : String) (first : List Char) (more : List (List Char))
    (htidy : ∀ line ∈ first :: more, IsTidyLine line)
    (htext : text.toList = Text.joinLines (first :: more)) : trimmedLines text = first :: more := by
  have htrim : (first :: more).map Text.trim = (first :: more).map id :=
    List.map_congr_left fun line hline => Text.trim_of_isTrimmed line (htidy line hline).isTrimmed
  rw [trimmedLines, htext, Text.splitWhen_joinLines first more fun line hline =>
    (htidy line hline).no_break, htrim, List.map_id]

/-- A tidy text has no blank lines, and no blanks around its lines. -/
theorem IsTidyText.isWhole_and_tidied_eq (text : String) (h : IsTidyText text) :
    IsWhole text ∧ tidied text = text := by
  obtain ⟨lines, htidy, htext⟩ := h
  cases lines with
  | nil =>
    obtain rfl : text = "" := by simpa using htext
    decide
  | cons first more =>
    have hlines := trimmedLines_of_tidy text first more htidy htext
    constructor
    · rw [IsWhole, hlines]
      exact List.pairwise_of_forall_mem_list fun line hline _ _ hblank =>
        absurd hblank (htidy line hline).ne_nil
    · have hfilled : (first :: more).filter (fun line => !line.isEmpty) = first :: more :=
        List.filter_eq_self.mpr fun line hline => by simpa using (htidy line hline).ne_nil
      rw [tidied, hlines, hfilled, ← htext, String.ofList_toList]

theorem parse_write (cues : List Cue) (htidy : ∀ c ∈ cues, IsTidy c)
    (hcount : cues.length < Nat.pow 2 64) :
    parse (write cues) = cues.mapIdx fun i c => { c with number := i + 1 } := by
  have htimes : ∀ c ∈ cues, c.start < hundredHours ∧ c.stop < hundredHours := fun c hc =>
    ⟨(htidy c hc).start, (htidy c hc).stop⟩
  have htexts (c : Cue) (hc : c ∈ cues) := (htidy c hc).text.isWhole_and_tidied_eq
  have hback := (readBack_eq_iff cues 1 0).mpr fun c hc => (htexts c hc).1
  rw [parse_write_eq_readBack cues htimes hcount, hback]
  apply List.ext_getElem (by simp)
  intro i hi hi'
  simp only [List.getElem_mapIdx, Nat.add_comm 1]
  rw [(htexts _ (List.getElem_mem _)).2]

theorem mem_of_mem_splitNumber (run : List (List Char)) (line : List Char)
    (h : line ∈ (splitNumber run).2) : line ∈ run := by
  cases run with
  | nil => cases h
  | cons first rest =>
    simp only [splitNumber] at h
    split at h
    · exact List.mem_cons_of_mem first h
    · exact h

/-- The text of a cue is made of lines of its run. -/
theorem exists_lines_of_cueOf (count : Nat) (run : List (List Char)) (c : Cue)
    (h : cueOf? count run = some c) :
    ∃ lines, (∀ line ∈ lines, line ∈ run) ∧ c.text.toList = Text.joinLines lines := by
  simp only [cueOf?] at h
  split at h
  · cases h
  · rename_i first after hdropped
    obtain ⟨times, -, rfl⟩ := Option.map_eq_some_iff.mp h
    refine ⟨_, fun line hline => ?_, String.toList_ofList⟩
    rcases List.mem_append.mp hline with hbefore | hafter
    · exact (List.takeWhile_sublist _).mem (mem_of_mem_splitNumber _ line hbefore)
    · have hdrop := List.dropWhile_sublist (fun line => (findTiming line).isNone) (l := run)
      rw [hdropped] at hdrop
      exact hdrop.mem (List.mem_cons_of_mem first hafter)

theorem mem_cuesFrom (count : Nat) (runs : List (List (List Char))) (c : Cue)
    (h : c ∈ cuesFrom count runs) : ∃ run ∈ runs, ∃ n, cueOf? n run = some c := by
  induction runs generalizing count with
  | nil => cases h
  | cons run rest ih =>
    rw [cuesFrom, List.mem_append, Option.mem_toList] at h
    rcases h with hrun | hrest
    · exact ⟨run, by simp, count, hrun⟩
    · obtain ⟨other, hmem, hother⟩ := ih _ hrest
      exact ⟨other, by simp [hmem], hother⟩

theorem isTidyLine_of_mem_runs (cs : List Char) (run : List (List Char))
    (hrun : run ∈ runs ((Text.lines cs).map Text.trim)) (line : List Char) (hline : line ∈ run) :
    IsTidyLine line := by
  have hpiece := (List.mem_filter.mp hrun).1
  obtain ⟨htrimmed, hfilled⟩ := Text.mem_of_mem_splitWhen _ _ run hpiece line hline
  obtain ⟨source, hsource, rfl⟩ := List.mem_map.mp htrimmed
  refine ⟨by simpa using hfilled, Text.isTrimmed_trim source, fun hfeed => ?_⟩
  exact Text.not_mem_of_mem_lines cs source hsource (Text.mem_of_mem_trim source '\n' hfeed)

theorem isTidyText_of_mem_parse (cs : List Char) (c : Cue) (h : c ∈ parse cs) :
    IsTidyText c.text := by
  rw [parse_eq_cuesFrom] at h
  obtain ⟨run, hrun, n, hcue⟩ := mem_cuesFrom 0 _ c h
  obtain ⟨lines, hlines, htext⟩ := exists_lines_of_cueOf n run c hcue
  exact ⟨lines, fun line hline => isTidyLine_of_mem_runs _ run hrun line (hlines line hline), htext⟩

/-- Tidy cues come back from a file as they were, numbered from one; there are never more of them
than a word of 64 bits can count. What was read from any file has tidy texts, and times that are
no later than a stamp of nines. -/
theorem parse_render :
    (∀ cues : List Cue, (∀ c ∈ cues, IsTidy c) → cues.length < Nat.pow 2 64 →
      parse (render cues).toList = cues.mapIdx fun i c => { c with number := i + 1 }) ∧
    ∀ cs, ∀ c ∈ parse cs, IsTidyText c.text ∧ c.start ≤ latestTime ∧ c.stop ≤ latestTime := by
  constructor
  · intro cues htidy hcount
    rw [render, String.toList_ofList, parse_write cues htidy hcount]
  · intro cs c hc
    exact ⟨isTidyText_of_mem_parse cs c hc, areEarly_of_mem_parse cs c hc⟩

/-- Texts that look like a number, like a timing, like a mark at the front of a file, and none. -/
def awkwardCues : List Cue :=
  [⟨7, 0, 0, "7"⟩, ⟨0, 359999999, 1000, "00:00:01,000 --> 00:00:02,000\n3"⟩,
    ⟨2, 61001, 5, "\ufeffa\rb"⟩, ⟨2, 1, 2, ""⟩]

/-- Cues whose texts look like a number and like a timing, one that begins with a mark, and one
without a text come back as they were. -/
theorem parse_render_awkwardCues :
    (∀ c ∈ awkwardCues, IsTidy c) ∧ awkwardCues.length < Nat.pow 2 64 ∧
      parse (render awkwardCues).toList =
        [⟨1, 0, 0, "7"⟩, ⟨2, 359999999, 1000, "00:00:01,000 --> 00:00:02,000\n3"⟩,
          ⟨3, 61001, 5, "\ufeffa\rb"⟩, ⟨4, 1, 2, ""⟩] ∧
      IsTidyText "00:00:01,000 --> 00:00:02,000\n3" := by
  have htidy : ∀ c ∈ awkwardCues, IsTidy c := by
    simp only [awkwardCues, List.mem_cons, List.not_mem_nil, or_false]
    rintro c (rfl | rfl | rfl | rfl)
    · exact ⟨⟨["7".toList], by decide, by decide⟩, by decide, by decide⟩
    · exact ⟨⟨["00:00:01,000 --> 00:00:02,000".toList,
        "3".toList], by decide, by decide⟩, by decide, by decide⟩
    · exact ⟨⟨["\ufeffa\rb".toList], by decide, by decide⟩, by decide, by decide⟩
    · exact ⟨⟨[], by decide, by decide⟩, by decide, by decide⟩
  have hcount : awkwardCues.length < Nat.pow 2 64 := by decide
  have hread := parse_render.1 awkwardCues htidy hcount
  have hmem : (⟨2, 359999999, 1000, "00:00:01,000 --> 00:00:02,000\n3"⟩ : Cue) ∈
      parse (render awkwardCues).toList := by
    rw [hread]
    simp [awkwardCues]
  exact ⟨htidy, hcount, hread, (parse_render.2 _ _ hmem).1⟩

end Subtitling.Subtitle.Srt
