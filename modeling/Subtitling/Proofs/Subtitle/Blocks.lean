import Subtitling.Proofs.Subtitle.Timing
import Subtitling.Proofs.Text.Lines

/-!
Reading run by run. The lines of a file fall into runs between blank lines; a run with a timing
is a cue of its own, whatever stands in the others, and only the count of the cues before it is
handed on.
-/

namespace Subtitling.Subtitle.Srt

/-- The runs of lines between blank ones, each as long as it can be. -/
def runs (lines : List (List Char)) : List (List (List Char)) :=
  (Text.splitWhen List.isEmpty lines).filter fun run => !run.isEmpty

/-- The number that a run has in its first line, if that is one, and the other lines. -/
def splitNumber : List (List Char) → Option Nat × List (List Char)
  | [] => (none, [])
  | line :: rest =>
    match Number.unsigned? line with
    | some n => (some n, rest)
    | none => (none, line :: rest)

/-- The cue of a run: its first timing line has the times, the first line before that may be the
number, and all other lines are text. -/
def cueOf? (count : Nat) (run : List (List Char)) : Option Cue :=
  let before := run.takeWhile fun line => (findTiming line).isNone
  match run.dropWhile fun line => (findTiming line).isNone with
  | [] => none
  | line :: after => (findTiming line).map fun times =>
    ⟨(splitNumber before).1.getD (count + 1), times.1, times.2,
      String.ofList (Text.joinLines ((splitNumber before).2 ++ after))⟩

/-- The cues of runs, one after the other; each run is told how many cues there are before it. -/
def cuesOf (runs : List (List (List Char))) : List Cue :=
  runs.foldl (fun cues run => cues ++ (cueOf? cues.length run).toList) []

/-- A line is text where the timing is known, or where it is no timing and the place of the number
is passed. -/
theorem add_eq_text (b : Block) (line : List Char)
    (h : b.times.isSome = true ∨
      findTiming line = none ∧ (b.number.isSome = true ∨ b.latest ≠ [])) :
    b.add line = { b with latest := line :: b.latest } := by
  cases htimes : b.times with
  | some times => simp [Block.add, htimes]
  | none =>
    simp only [htimes, Option.isSome_none, Bool.false_eq_true, false_or] at h
    obtain ⟨huntimed, hnumber | hlatest⟩ := h
    · have hsome : b.number.isNone = false := by simpa using hnumber
      simp [Block.add, htimes, huntimed, hsome]
    · simp [Block.add, htimes, huntimed, hlatest]

theorem foldl_add_eq_text (b : Block) (lines : List (List Char))
    (h : b.times.isSome = true ∨
      (∀ line ∈ lines, findTiming line = none) ∧ (b.number.isSome = true ∨ b.latest ≠ [])) :
    lines.foldl Block.add b = { b with latest := lines.reverse ++ b.latest } := by
  induction lines generalizing b with
  | nil => rfl
  | cons line rest ih =>
    have hline : b.add line = { b with latest := line :: b.latest } := by
      apply add_eq_text
      rcases h with htimes | ⟨huntimed, hfilled⟩
      · exact .inl htimes
      · exact .inr ⟨huntimed line (by simp), hfilled⟩
    rw [List.foldl_cons, hline, ih, List.reverse_cons, List.append_assoc, List.singleton_append]
    rcases h with htimes | ⟨huntimed, -⟩
    · exact .inl htimes
    · exact .inr ⟨fun other hother => huntimed other (by simp [hother]), .inr (by simp)⟩

/-- Lines without a timing make a block of a number and text. A number is only looked for in the
first of them. -/
theorem foldl_add_of_untimed (before : List (List Char))
    (h : ∀ line ∈ before, findTiming line = none) :
    before.foldl Block.add Block.empty =
      ⟨(splitNumber before).1, none, (splitNumber before).2.reverse⟩ := by
  cases before with
  | nil => rfl
  | cons line rest =>
    have hline : findTiming line = none := h line (by simp)
    have hrest : ∀ other ∈ rest, findTiming other = none :=
      fun other hother => h other (by simp [hother])
    rw [List.foldl_cons]
    cases hnumber : Number.unsigned? line with
    | some n =>
      have hadd : Block.empty.add line = ⟨some n, none, []⟩ := by
        simp [Block.add, Block.empty, hline, hnumber]
      rw [hadd, foldl_add_eq_text _ rest (.inr ⟨hrest, .inl rfl⟩)]
      simp [splitNumber, hnumber]
    | none =>
      have hadd : Block.empty.add line = ⟨none, none, [line]⟩ := by
        simp [Block.add, Block.empty, hline, hnumber]
      rw [hadd, foldl_add_eq_text _ rest (.inr ⟨hrest, .inr (by simp)⟩)]
      simp [splitNumber, hnumber]

/-- The block that the lines of a run make is the cue of the run. The first timing splits the
run: before it may stand a number, and behind it everything is text, timings included. -/
theorem cue_foldl_add (count : Nat) (run : List (List Char)) :
    (run.foldl Block.add Block.empty).cue? count = cueOf? count run := by
  let before := run.takeWhile fun line => (findTiming line).isNone
  have hbefore : ∀ line ∈ before, findTiming line = none := by
    intro line hline
    simpa using List.all_eq_true.mp List.all_takeWhile line hline
  have hrun : run = before ++ run.dropWhile fun line => (findTiming line).isNone :=
    List.takeWhile_append_dropWhile.symm
  have huntimed := foldl_add_of_untimed before hbefore
  simp only [cueOf?]
  cases hdropped : run.dropWhile fun line => (findTiming line).isNone with
  | nil =>
    rw [hdropped, List.append_nil] at hrun
    rw [hrun, huntimed]
    rfl
  | cons line after =>
    have hfirst := List.head?_dropWhile_not (fun line => (findTiming line).isNone) run
    rw [hdropped] at hfirst
    obtain ⟨times, htimes⟩ := Option.isSome_iff_exists.mp (Option.isNone_eq_false_iff.mp hfirst)
    have hadd : (Block.mk (splitNumber before).1 none (splitNumber before).2.reverse).add line =
        ⟨(splitNumber before).1, some times, (splitNumber before).2.reverse⟩ := by
      simp [Block.add, htimes]
    rw [hdropped] at hrun
    have hblock : run.foldl Block.add Block.empty =
        ⟨(splitNumber before).1, some times,
          after.reverse ++ (splitNumber before).2.reverse⟩ := by
      rw [hrun, List.foldl_append, huntimed, List.foldl_cons, hadd,
        foldl_add_eq_text _ _ (.inl rfl)]
    rw [hblock]
    simp [Block.cue?, htimes, before]

def cuesFrom (count : Nat) : List (List (List Char)) → List Cue
  | [] => []
  | run :: rest =>
    (cueOf? count run).toList ++ cuesFrom (count + (cueOf? count run).toList.length) rest

theorem cuesOf_eq (runs : List (List (List Char))) : cuesOf runs = cuesFrom 0 runs := by
  have hfold : ∀ cues : List Cue,
      runs.foldl (fun cues run => cues ++ (cueOf? cues.length run).toList) cues =
        cues ++ cuesFrom cues.length runs := by
    induction runs with
    | nil => intro cues; simp [cuesFrom]
    | cons run rest ih => intro cues; simp [ih, cuesFrom]
  exact hfold []

/-- A run without lines is no cue. -/
theorem cuesFrom_filter (count : Nat) (runs : List (List (List Char))) :
    cuesFrom count (runs.filter fun run => !run.isEmpty) = cuesFrom count runs := by
  induction runs generalizing count with
  | nil => rfl
  | cons run rest ih =>
    cases run with
    | nil =>
      have hnone : cueOf? count [] = none := rfl
      simp [cuesFrom, hnone, ih]
    | cons line more =>
      simp only [List.filter_cons, List.isEmpty_cons, Bool.not_false, if_true, cuesFrom, ih]

/-- A block under way takes the lines up to the next blank one, and the runs behind that are read
on their own. -/
theorem readLines_eq (lines : List (List Char)) (b : Block) (count : Nat)
    (first : List (List Char)) (more : List (List (List Char)))
    (h : Text.splitWhen List.isEmpty lines = first :: more) :
    readLines b count lines = ((first.foldl Block.add b).cue? count).toList ++
      cuesFrom (count + ((first.foldl Block.add b).cue? count).toList.length) more := by
  induction lines generalizing b count first more with
  | nil =>
    obtain ⟨rfl, rfl⟩ := List.cons.inj h
    simp [readLines, cuesFrom]
  | cons line rest ih =>
    rw [Text.splitWhen] at h
    rw [readLines]
    split at h
    · rename_i hblank
      obtain ⟨rfl, rfl⟩ := List.cons.inj h
      obtain ⟨next, others, hnext⟩ :=
        List.exists_cons_of_ne_nil (Text.splitWhen_ne_nil List.isEmpty rest)
      have hrest (n : Nat) : readLines Block.empty n rest = cuesFrom n (next :: others) := by
        rw [ih Block.empty n next others hnext, cue_foldl_add, cuesFrom]
      rw [hnext, if_pos hblank, List.foldl_nil]
      cases b.cue? count with
      | none => simp [hrest]
      | some cue => simp [hrest]
    · rename_i hfilled
      rw [if_neg hfilled]
      split at h
      · rename_i hnil
        exact absurd hnil (Text.splitWhen_ne_nil List.isEmpty rest)
      · rename_i piece others hpieces
        obtain ⟨rfl, rfl⟩ := List.cons.inj h
        exact ih (b.add line) count piece others hpieces

theorem readLines_empty_eq (count : Nat) (lines : List (List Char)) :
    readLines Block.empty count lines = cuesFrom count (Text.splitWhen List.isEmpty lines) := by
  obtain ⟨first, more, hpieces⟩ :=
    List.exists_cons_of_ne_nil (Text.splitWhen_ne_nil List.isEmpty lines)
  rw [readLines_eq lines Block.empty count first more hpieces, cue_foldl_add, hpieces, cuesFrom]

/-- A file is read run by run. -/
theorem parse_eq_cuesFrom (cs : List Char) :
    parse cs = cuesFrom 0 (runs ((Text.lines (dropMarks cs)).map Text.trim)) := by
  rw [parse, readLines_empty_eq, runs, cuesFrom_filter]

/-- A run up to its blank line, and what is behind it on its own. -/
theorem readLines_append_cons (count : Nat) (run rest : List (List Char))
    (h : ∀ line ∈ run, line ≠ []) :
    readLines Block.empty count (run ++ [] :: rest) = (cueOf? count run).toList ++
      readLines Block.empty (count + (cueOf? count run).toList.length) rest := by
  have hrun : Text.splitWhen List.isEmpty run = [run] :=
    Text.splitWhen_of_none List.isEmpty run fun line hline => by simp [h line hline]
  rw [readLines_empty_eq, Text.splitWhen_append_cons _ run rest [] rfl, hrun,
    List.singleton_append, cuesFrom, ← readLines_empty_eq]

/-- Byte-order marks are dropped as long as they are in front, and nothing else is. -/
theorem dropMarks_eq_iff (cs rest : List Char) : dropMarks cs = rest ↔
    (∃ n, cs = List.replicate n '\ufeff' ++ rest) ∧ rest.head? ≠ some '\ufeff' := by
  rw [dropMarks]
  induction cs with
  | nil =>
    constructor
    · rintro rfl
      exact ⟨⟨0, rfl⟩, by simp⟩
    · rintro ⟨⟨n, hn⟩, -⟩
      exact (List.append_eq_nil_iff.mp hn.symm).2.symm
  | cons c more ih =>
    by_cases hmark : c = '\ufeff'
    · rw [List.dropWhile_cons_of_pos (by simp [hmark]), ih]
      refine and_congr_left fun hrest => ?_
      constructor
      · rintro ⟨n, rfl⟩
        exact ⟨n + 1, by rw [hmark, List.replicate_succ, List.cons_append]⟩
      · rintro ⟨n, hn⟩
        cases n with
        | zero =>
          obtain rfl : c :: more = rest := hn
          exact absurd (congrArg some hmark) hrest
        | succ n =>
          rw [List.replicate_succ, List.cons_append] at hn
          exact ⟨n, (List.cons.inj hn).2⟩
    · rw [List.dropWhile_cons_of_neg (by simp [hmark])]
      constructor
      · rintro rfl
        exact ⟨⟨0, rfl⟩, by simp [hmark]⟩
      · rintro ⟨⟨n, hn⟩, -⟩
        cases n with
        | zero => exact hn
        | succ n => exact absurd (List.cons.inj hn).1 hmark

/-- What is read of a file that consists of these lines behind some byte-order marks. -/
theorem parse_of_lined (n : Nat) (rest : List Char) (lines : List (List Char))
    (hmark : rest.head? ≠ some '\ufeff') (h : Text.Lined rest lines) :
    parse (List.replicate n '\ufeff' ++ rest) = cuesOf (runs (lines.map Text.trim)) := by
  have hrest : dropMarks (List.replicate n '\ufeff' ++ rest) = rest :=
    (dropMarks_eq_iff _ _).mpr ⟨⟨n, rfl⟩, hmark⟩
  rw [cuesOf_eq, parse_eq_cuesFrom, hrest, (Text.lines_eq_iff rest lines).mpr h]

end Subtitling.Subtitle.Srt
