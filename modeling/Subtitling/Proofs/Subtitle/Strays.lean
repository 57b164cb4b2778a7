import Subtitling.Proofs.Subtitle.RoundTrip
import Subtitling.Proofs.Subtitle.Splice

/-!
Foreign texts in a file. Lines that are put in may say anything, and they are written as they
are. What was read from a file has whole texts only, so that it depends on the lines alone
whether the cues come back one for one.
-/

namespace Subtitling.Subtitle

theorem Cue.times_spliced (c : Cue) (lines : List Line) (i : Nat) :
    (c.spliced lines i).start = c.start ∧ (c.spliced lines i).stop = c.stop := by
  rw [Cue.spliced]
  split
  · exact ⟨rfl, rfl⟩
  · exact ⟨rfl, rfl⟩

namespace Track

variable (t : Track) (lines : List Line)

theorem times_splice (h : ∀ c ∈ t.cues, c.start < Srt.hundredHours ∧ c.stop < Srt.hundredHours) :
    ∀ c ∈ (t.splice lines).cues, c.start < Srt.hundredHours ∧ c.stop < Srt.hundredHours := by
  intro c hc
  rw [cues_splice, List.mem_mapIdx] at hc
  obtain ⟨i, hi, rfl⟩ := hc
  have htimes := h t.cues[i] (List.getElem_mem hi)
  rw [(t.cues[i].times_spliced lines i).1, (t.cues[i].times_spliced lines i).2]
  exact htimes

/-- Where the cues had whole texts, the lines that were put in decide whether they still have. -/
theorem isWhole_splice_iff (h : ∀ c ∈ t.cues, Srt.IsWhole c.text) :
    (∀ c ∈ (t.splice lines).cues, Srt.IsWhole c.text) ↔
      ∀ i < t.cues.length, ∀ line ∈ lastFor? lines i, Srt.IsWhole line.text := by
  simp only [cues_splice, List.mem_mapIdx]
  constructor
  · intro hwhole i hi line hline
    have hcue := hwhole _ ⟨i, hi, rfl⟩
    rwa [Cue.spliced, Option.mem_def.mp hline] at hcue
  · rintro hwhole c ⟨i, hi, rfl⟩
    rw [Cue.spliced]
    split
    · rename_i line hline
      exact hwhole i hi line hline
    · exact h _ (List.getElem_mem hi)

/-- After lines were put into a file, each cue is read in its turn, with its times and the lines
of its text before the first blank one; later runs of lines are read as strays. The cues come
back one for one, with all of their texts, just where none of the lines in them goes on behind a
blank one. -/
theorem splice_reads_back (cs : List Char) (hcues : t.cues = Srt.parse cs)
    (htimes : ∀ c ∈ t.cues, c.start < Srt.hundredHours ∧ c.stop < Srt.hundredHours)
    (hcount : t.cues.length < Nat.pow 2 64) :
    Srt.parse (t.splice lines).render.toList = Srt.readBack 1 0 (t.splice lines).cues ∧
      ((Srt.parse (t.splice lines).render.toList = t.cues.mapIdx fun i c =>
          ⟨i + 1, c.start, c.stop, Srt.tidied (c.spliced lines i).text⟩) ↔
        ∀ i < t.cues.length, ∀ line ∈ lastFor? lines i, Srt.IsWhole line.text) := by
  have hlength : (t.splice lines).cues.length = t.cues.length := by
    rw [cues_splice, List.length_mapIdx]
  have hread : Srt.parse (t.splice lines).render.toList =
    Srt.readBack 1 0 (t.splice lines).cues := by
    rw [render, Srt.render, String.toList_ofList]
    exact Srt.parse_write_eq_readBack _ (t.times_splice lines htimes) (by rwa [hlength])
  have hwhole : ∀ c ∈ t.cues, Srt.IsWhole c.text := by
    intro c hc
    rw [hcues] at hc
    exact (Srt.isTidyText_of_mem_parse cs c hc).isWhole_and_tidied_eq.1
  have hexpected : (t.cues.mapIdx fun i c =>
      (⟨i + 1, c.start, c.stop, Srt.tidied (c.spliced lines i).text⟩ : Cue)) =
      (t.splice lines).cues.mapIdx fun i c =>
        { c with number := 1 + i, text := Srt.tidied c.text } := by
    rw [cues_splice, List.mapIdx_mapIdx]
    refine congrArg (List.mapIdx · t.cues) ?_
    funext i c
    simp only [Function.comp_apply, (c.times_spliced lines i).1, (c.times_spliced lines i).2,
      Nat.add_comm 1]
  refine ⟨hread, ?_⟩
  rw [hread, hexpected, Srt.readBack_eq_iff, t.isWhole_splice_iff lines hwhole]

/-- A line that looks like a cue but has no gap stays in the cue it is for. -/
theorem splice_reads_back_gapless :
    let cs :=
      "1\n00:00:01,000 --> 00:00:02,000\n<i>Hello</i>\n\n00:00:03.000 --> 00:00:04.000\nWorld"
        |>.toList
    let t : Track := ⟨"Film.en.srt", Srt.parse cs⟩
    let lines : List Line := [⟨0, " 7\r\n00:00:09,000 --> 00:00:10,000 \nSalut\n\n"⟩]
    Srt.parse (t.splice lines).render.toList =
      [⟨1, 1000, 2000, "7\n00:00:09,000 --> 00:00:10,000\nSalut"⟩, ⟨2, 3000, 4000, "World"⟩] := by
  intro cs t lines
  have hcues : t.cues = [⟨1, 1000, 2000, "<i>Hello</i>"⟩, ⟨2, 3000, 4000, "World"⟩] := by
    decide +kernel
  have htimes : ∀ c ∈ t.cues, c.start < Srt.hundredHours ∧ c.stop < Srt.hundredHours := by
    rw [hcues]
    decide
  have hcount : t.cues.length < Nat.pow 2 64 := by
    rw [hcues]
    decide
  have hwhole : ∀ i < t.cues.length, ∀ line ∈ lastFor? lines i, Srt.IsWhole line.text := by
    rw [hcues]
    decide +kernel
  rw [((t.splice_reads_back lines cs rfl htimes hcount).2).mpr hwhole, hcues]
  decide +kernel

/-- A line with gaps loses a run without a timing, and one with a timing becomes a cue of its
own. -/
theorem splice_lets_strays_in :
    let t : Track := ⟨"Film.en.srt", Srt.parse "1\n00:00:01,000 --> 00:00:02,000\nHello\n".toList⟩
    let lines : List Line := [⟨0, "Bonjour\n\nperdu\n\n00:00:09,000 --> 00:00:10,000\nintrus"⟩]
    t.cues = [⟨1, 1000, 2000, "Hello"⟩] ∧
      Srt.parse (t.splice lines).render.toList =
        [⟨1, 1000, 2000, "Bonjour"⟩, ⟨2, 9000, 10000, "intrus"⟩] ∧
      Srt.parse (t.splice lines).render.toList ≠ t.cues.mapIdx fun i c =>
        ⟨i + 1, c.start, c.stop, Srt.tidied (c.spliced lines i).text⟩ := by
  decide +kernel

end Track

end Subtitling.Subtitle
