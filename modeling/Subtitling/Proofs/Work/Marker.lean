import Subtitling.Proofs.Subtitle.LateTimes
import Subtitling.Proofs.Work.WorkUnit

/-!
The last cue read again. It says where the lines come from, and it stands behind all cues of a
source and after all of them, so that it is the one whose times can be too late to be read again:
a source may end shortly before a hundred hours, and then the last cue does not.
-/

namespace Subtitling.Work

open Subtitle (Cue Track)
open Subtitle.Srt (IsTidyText hundredHours)

theorem isTidyText_marker : IsTidyText WorkUnit.marker ∧ ':' ∉ WorkUnit.marker.toList := by
  refine ⟨⟨[WorkUnit.marker.toList], ?_, (Text.joinLines_singleton _).symm⟩, by decide⟩
  decide

/-- The cues of a source and the last cue behind them come back just where all times are below a
hundred hours. If only the last cue is later, it is lost. -/
theorem marker_reads_back (t : Track) (cs : List Char) (hcues : t.cues = Subtitle.Srt.parse cs)
    (hsome : t.cues ≠ []) (hcount : t.cues.length + 1 < Nat.pow 2 64) :
    (IsTidyText WorkUnit.marker ∧ ':' ∉ WorkUnit.marker.toList) ∧
      ∃ last, IsLatest t.cues last ∧ ∀ text, IsTidyText text →
        let cues := t.cues.mapIdx fun i c => { c with number := i + 1 }
        let read := Subtitle.Srt.parse (t.appendMarker text).render.toList
        (read = cues ++ [⟨t.cues.length + 1, last.stop + 1000, last.stop + 1000 + 5000, text⟩] ↔
          (∀ c ∈ t.cues, c.start < hundredHours) ∧ last.stop + 6000 < hundredHours) ∧
        ((∀ c ∈ t.cues, c.start < hundredHours ∧ c.stop < hundredHours) →
          hundredHours ≤ last.stop + 6000 → ':' ∉ text.toList → read = cues) := by
  obtain ⟨last, hlast⟩ := exists_isLatest t.cues hsome
  refine ⟨isTidyText_marker, last, hlast, ?_⟩
  intro text htext cues read
  have htexts : ∀ c ∈ t.cues, IsTidyText c.text := fun c hc =>
    Subtitle.Srt.isTidyText_of_mem_parse cs c (hcues ▸ hc)
  let marker : Cue := ⟨t.cues.length + 1, last.stop + 1000, last.stop + 1000 + 5000, text⟩
  have hmarker : t.marker text = marker :=
    marker_eq t last.stop text (lastStop_eq_some t last hlast)
  have hread : read = Subtitle.Srt.parse (Subtitle.Srt.write (t.cues ++ [marker])) := by
    rw [← hmarker]
    exact congrArg Subtitle.Srt.parse String.toList_ofList
  have hnumbered : cues ++ [marker] =
    (t.cues ++ [marker]).mapIdx fun i c => { c with number := i + 1 } := by
    rw [List.mapIdx_append, List.mapIdx_singleton, Nat.zero_add]
  constructor
  · have hwritten := Subtitle.Srt.parse_write_iff (t.cues ++ [marker])
      (by simpa [or_imp, forall_and, marker] using ⟨htexts, htext⟩) (by simpa using hcount)
    rw [hread, hnumbered, hwritten]
    simp only [List.forall_mem_append, List.forall_mem_singleton, marker]
    constructor
    · rintro ⟨htimes, -, hstop⟩
      exact ⟨fun c hc => (htimes c hc).1, hstop⟩
    · rintro ⟨hstarts, hstop⟩
      refine ⟨fun c hc => ⟨hstarts c hc, ?_⟩, by omega, hstop⟩
      have hle := hlast.2 c hc
      omega
  · intro htimes hlate hcolon
    have htidy : ∀ c ∈ t.cues, Subtitle.Srt.IsTidy c := fun c hc =>
      ⟨htexts c hc, (htimes c hc).1, (htimes c hc).2⟩
    rw [hread]
    exact Subtitle.Srt.parse_write_append_of_late t.cues marker htidy htext hcolon hlate hcount

/-- The latest end that leaves room for the last cue, in a source that does not end with it. -/
theorem marker_reads_back_latest :
    let t : Track := ⟨"Film.en.srt",
      Subtitle.Srt.parse
        "7\n99:59:50,000 --> 99:59:53,999\nBye\n\n0:00:01.000 --> 0:00:02.000\nHi".toList⟩
    Subtitle.Srt.parse (t.appendMarker WorkUnit.marker).render.toList =
      [⟨1, 359990000, 359993999, "Bye"⟩, ⟨2, 1000, 2000, "Hi"⟩,
        ⟨3, 359994999, 359999999, "# Subtitles translated with AI Subtitle Translator #"⟩] := by
  intro t
  have hcues : t.cues = [⟨7, 359990000, 359993999, "Bye"⟩, ⟨2, 1000, 2000, "Hi"⟩] := by
    decide +kernel
  obtain ⟨⟨htidy, -⟩, last, ⟨hmem, hle⟩, hread⟩ :=
    marker_reads_back t _ rfl (by rw [hcues]; decide) (by rw [hcues]; decide)
  have hlast : last.stop = 359993999 := by
    rw [hcues] at hmem hle
    simp only [List.mem_cons, List.not_mem_nil, or_false] at hmem
    rcases hmem with rfl | rfl
    · rfl
    · exact absurd (hle _ List.mem_cons_self) (by decide)
  have hback := (hread WorkUnit.marker htidy).1.mpr
  rw [hcues, hlast] at hback
  exact hback (by decide)

/-- A source that ends two seconds before a hundred hours loses the last cue. -/
theorem late_marker_is_lost :
    let t : Track :=
      ⟨"Film.en.srt", Subtitle.Srt.parse "1\n99:59:57,000 --> 99:59:58,000\nBye\n".toList⟩
    t.cues = [⟨1, 359997000, 359998000, "Bye"⟩] ∧
      t.marker WorkUnit.marker = ⟨2, 359999000, 360004000, WorkUnit.marker⟩ ∧
      Subtitle.Srt.parse (t.appendMarker WorkUnit.marker).render.toList = t.cues ∧
      Subtitle.Srt.parse (t.appendMarker WorkUnit.marker).render.toList ≠
        t.cues ++ [⟨2, 359999000, 360004000, WorkUnit.marker⟩] := by
  decide +kernel

end Subtitling.Work
