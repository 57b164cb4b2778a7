import Mathlib.Data.String.Basic
import Subtitling.Source.Scan

/-!
The order of a scan. English files come first, so the first file of a scan is English if any is; and
a scan finds nothing where no searched directory holds a subtitle.
-/

namespace Subtitling.Source

open Files

namespace Found

theorem before_iff (a b : Found) : a.before b = true ↔
    a.isEnglish = true ∧ b.isEnglish = false ∨
      a.isEnglish = b.isEnglish ∧ a.filename ≤ b.filename := by
  simp only [before]
  cases a.isEnglish <;> cases b.isEnglish <;> simp

theorem before_trans (a b c : Found) (hab : a.before b = true) (hbc : b.before c = true) :
    a.before c = true := by
  rw [before_iff] at hab hbc ⊢
  rcases hab with ⟨ha, hb⟩ | ⟨hsame, hname⟩
  · rcases hbc with ⟨hb', -⟩ | ⟨hsame, -⟩
    · rw [hb] at hb'
      cases hb'
    · exact .inl ⟨ha, hsame ▸ hb⟩
  · rcases hbc with ⟨hb, hc⟩ | ⟨hsame', hname'⟩
    · exact .inl ⟨hsame.trans hb, hc⟩
    · exact .inr ⟨hsame.trans hsame', String.le_trans hname hname'⟩

theorem before_total (a b : Found) : (a.before b || b.before a) = true := by
  rw [Bool.or_eq_true, before_iff, before_iff]
  have hnames := String.le_total a.filename b.filename
  cases ha : a.isEnglish <;> cases hb : b.isEnglish <;> simp [hnames]

/-- What stands before an English file is English. -/
theorem isEnglish_of_before (a b : Found) (hab : a.before b = true) (hb : b.isEnglish = true) :
    a.isEnglish = true := by
  rcases (before_iff a b).mp hab with ⟨ha, -⟩ | ⟨hsame, -⟩
  · exact ha
  · exact hsame.trans hb

end Found

section
variable (d : Language.Detector) (t : Tree) (video : String)

theorem pairwise_scan : (scan d t video).Pairwise fun a b => a.before b = true :=
  List.pairwise_mergeSort Found.before_trans Found.before_total _

/-- The first file of a scan is English if any of its files is. -/
theorem isEnglish_head_scan (first : Found) (rest : List Found)
    (h : scan d t video = first :: rest) :
    first.isEnglish = (scan d t video).any Found.isEnglish := by
  have hpairs := pairwise_scan d t video
  rw [h] at hpairs ⊢
  cases hfirst : first.isEnglish with
  | true => simp [hfirst]
  | false =>
    have hrest : ∀ f ∈ rest, f.isEnglish = false := by
      intro f hf
      cases henglish : f.isEnglish with
      | false => rfl
      | true =>
        have hbefore := (List.pairwise_cons.mp hpairs).1 f hf
        rw [first.isEnglish_of_before f hbefore henglish] at hfirst
        cases hfirst
    simpa [hfirst] using hrest

/-- No directory that is searched for a video holds a subtitle. -/
def NothingAround : Prop := ∀ dir ∈ searchDirectories t video, t.filesWithExtension dir "srt" = []

theorem scan_eq_nil_iff : scan d t video = [] ↔ NothingAround t video := by
  rw [← List.length_eq_zero_iff, scan, List.length_mergeSort, List.length_map,
    List.length_eq_zero_iff, List.flatMap_eq_nil_iff]
  rfl

end

end Subtitling.Source
