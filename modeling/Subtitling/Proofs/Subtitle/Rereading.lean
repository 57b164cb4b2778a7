import Mathlib.Data.List.Induction
import Subtitling.Proofs.Subtitle.Blocks
import Subtitling.Proofs.Subtitle.Writing
import Subtitling.Proofs.Text.Lines

/-!
What is read of cues that were written, whatever their texts say. The number and the times of a
cue stand in lines that reading does not change, and its text goes as far as the first blank
line. Behind that the text is on its own: each run of lines there is a stray that is read as any
other, a cue if it has a timing and nothing if it has none. All of a text belongs to its cue just
where there are no strays.
-/

namespace Subtitling.Subtitle.Srt

/-- A line that is left as it is by reading. -/
structure IsTidyLine (line : List Char) : Prop where
  ne_nil : line ≠ []
  isTrimmed : Text.IsTrimmed line
  no_break : '\n' ∉ line

instance : DecidablePred IsTidyLine := fun line =>
  decidable_of_iff (line ≠ [] ∧ Text.IsTrimmed line ∧ '\n' ∉ line)
    ⟨fun h => ⟨h.1, h.2.1, h.2.2⟩, fun h => ⟨h.ne_nil, h.isTrimmed, h.no_break⟩⟩

/-- The lines of a text, trimmed. -/
def trimmedLines (text : String) : List (List Char) :=
  (Text.splitWhen (· == '\n') text.toList).map Text.trim

def tidied (text : String) : String :=
  String.ofList (Text.joinLines ((trimmedLines text).filter fun line => !line.isEmpty))

/-- A text in which nothing but blank lines comes after a blank line. -/
def IsWhole (text : String) : Prop :=
  (trimmedLines text).Pairwise fun line later => line = [] → later = []

instance : DecidablePred IsWhole := fun text =>
  inferInstanceAs (Decidable ((trimmedLines text).Pairwise fun line later => line = [] →
    later = []))

def leadingLines (text : String) : List (List Char) :=
  (trimmedLines text).takeWhile fun line => !line.isEmpty

def laterRuns (text : String) : List (List (List Char)) :=
  runs ((trimmedLines text).dropWhile fun line => !line.isEmpty)

/-- What is read of cues that are numbered from `first` on, with `count` cues read before them: each
with its leading lines, and then the strays of its text. -/
def readBack (first count : Nat) : List Cue → List Cue
  | [] => []
  | c :: rest =>
    let strays := cuesFrom (count + 1) (laterRuns c.text)
    { c with number := first, text := String.ofList (Text.joinLines (leadingLines c.text)) } ::
      (strays ++ readBack (first + 1) (count + 1 + strays.length) rest)

theorem isTidyLine_toDigits (n : Nat) : IsTidyLine (Nat.toDigits 10 n) := by
  have hfilled : ∀ c ∈ Nat.toDigits 10 n, Text.isBlank c = false := fun c hc =>
    Text.not_isBlank_of_isDecimalDigit c
      (isDecimalDigit_of_isDigit c (Number.isDigit_of_mem_toDigits n c hc))
  refine ⟨Nat.toDigits_ne_nil, ⟨fun c hc => ?_, fun c hc => ?_⟩, fun hfeed => ?_⟩
  · exact hfilled c (List.mem_of_mem_head? hc)
  · exact hfilled c (List.mem_of_getLast? hc)
  · exact absurd (hfilled '\n' hfeed) (by decide)

theorem isTidyLine_timingLine (c : Cue) : IsTidyLine (timingLine c) where
  ne_nil := by simp [timingLine]
  isTrimmed := isTrimmed_timingLine c
  no_break := by
    have hchars (ms : Nat) : '\n' ∉ Timestamp.chars ms :=
      not_mem_chars ms '\n' (by decide) (by decide) (by decide)
    simp [timingLine, hchars]

theorem isTidyLine_of_mem_trimmedLines (text : String) (line : List Char)
    (h : line ∈ trimmedLines text) (hne : line ≠ []) : IsTidyLine line := by
  obtain ⟨source, hsource, rfl⟩ := List.mem_map.mp h
  refine ⟨hne, Text.isTrimmed_trim source, fun hfeed => ?_⟩
  have hmem := Text.mem_of_mem_trim source '\n' hfeed
  have hsplit := (Text.mem_of_mem_splitWhen _ _ source hsource '\n' hmem).2
  exact absurd hsplit (by decide)

/-- A text stands in a file with its lines, between the timing of its cue and a blank line. -/
theorem map_trim_lines_writeCue (number : Nat) (c : Cue) (rest : List Char) :
    (Text.lines (writeCue number c ++ rest)).map Text.trim =
      Nat.toDigits 10 number :: timingLine c ::
        (trimmedLines c.text ++ [] :: (Text.lines rest).map Text.trim) := by
  have hnumber := isTidyLine_toDigits number
  have htiming := isTidyLine_timingLine c
  have hchars : writeCue number c ++ rest = Nat.toDigits 10 number ++ '\n' :: (timingLine c ++
      '\n' :: (c.text.toList ++ '\n' :: '\n' :: rest)) := by
    simp [writeCue, timingLine]
  rw [hchars, Text.map_trim_lines_append_cons _ _ hnumber.no_break,
    Text.map_trim_lines_append_cons _ _ htiming.no_break, Text.map_trim_lines_append,
    Text.trim_of_isTrimmed _ hnumber.isTrimmed, Text.trim_of_isTrimmed _ htiming.isTrimmed]
  rfl

theorem cueOf_written (count number : Nat) (c : Cue) (texts : List (List Char)) (times : Nat × Nat)
    (htimes : findTiming (timingLine c) = some times) (hnumber : number < Nat.pow 2 64) :
    cueOf? count (Nat.toDigits 10 number :: timingLine c :: texts) =
      some ⟨number, times.1, times.2, String.ofList (Text.joinLines texts)⟩ := by
  have huntimed := findTiming_toDigits number
  simp [cueOf?, huntimed, htimes, splitNumber, Number.unsigned_toDigits number hnumber]

theorem cuesFrom_append (count : Nat) (front back : List (List (List Char))) :
    cuesFrom count (front ++ back) =
      cuesFrom count front ++ cuesFrom (count + (cuesFrom count front).length) back := by
  induction front generalizing count with
  | nil => rfl
  | cons run rest ih =>
    simp only [List.cons_append, cuesFrom, ih, List.append_assoc, List.length_append,
      Nat.add_assoc]

/-- Lines before a blank one are read on their own. -/
theorem readLines_append_blank (count : Nat) (lines rest : List (List Char)) :
    readLines Block.empty count (lines ++ [] :: rest) = cuesFrom count (runs lines) ++
      readLines Block.empty (count + (cuesFrom count (runs lines)).length) rest := by
  rw [readLines_empty_eq, Text.splitWhen_append_cons _ lines rest [] rfl, cuesFrom_append, runs,
    cuesFrom_filter, ← readLines_empty_eq _ rest]

def writtenRun (number : Nat) (c : Cue) : List (List Char) :=
  Nat.toDigits 10 number :: timingLine c :: leadingLines c.text

/-- One written cue is read as its run, then its strays, then what is behind it. The first blank
line ends the run; what its text has behind that makes runs of its own. -/
theorem readLines_writeCue (count number : Nat) (c : Cue) (rest : List Char) :
    readLines Block.empty count ((Text.lines (writeCue number c ++ rest)).map Text.trim) =
      let own := (cueOf? count (writtenRun number c)).toList
      let strays := cuesFrom (count + own.length) (laterRuns c.text)
      own ++ (strays ++ readLines Block.empty (count + own.length + strays.length)
        ((Text.lines rest).map Text.trim)) := by
  have hrun : ∀ line ∈ writtenRun number c, line ≠ [] := by
    intro line hline
    rcases List.mem_cons.mp hline with rfl | hline
    · exact (isTidyLine_toDigits number).ne_nil
    rcases List.mem_cons.mp hline with rfl | hline
    · exact (isTidyLine_timingLine c).ne_nil
    · simpa using List.all_eq_true.mp List.all_takeWhile line hline
  have hread (more : List (List Char)) :=
    readLines_append_cons count (writtenRun number c) more hrun
  have hlines : trimmedLines c.text = leadingLines c.text ++
      (trimmedLines c.text).dropWhile fun line => !line.isEmpty :=
    List.takeWhile_append_dropWhile.symm
  rw [map_trim_lines_writeCue number c rest, hlines, laterRuns]
  -- Either all lines lead and the blank line at the end closes the run, or one of the text does.
  cases hdropped : (trimmedLines c.text).dropWhile fun line => !line.isEmpty with
  | nil =>
    rw [List.append_nil]
    exact hread _
  | cons blank more =>
    have hblank := List.head?_dropWhile_not (fun line => !line.isEmpty) (trimmedLines c.text)
    rw [hdropped] at hblank
    obtain rfl : blank = [] := by simpa using hblank
    have hruns : runs ([] :: more) = runs more := by simp [runs, Text.splitWhen]
    rw [List.append_assoc, List.cons_append, hruns]
    refine (hread _).trans ?_
    rw [readLines_append_blank]

/-- Cues that were written one behind the other are read one by one, by induction on the cues.
The text of a cue may go on behind a blank line and be read as strays, and what follows is
counted from there on. -/
theorem readLines_writeFrom (cues : List Cue) (first count : Nat) (rest : List Char)
    (htimes : ∀ c ∈ cues, c.start < hundredHours ∧ c.stop < hundredHours)
    (hcount : first + cues.length ≤ Nat.pow 2 64) :
    readLines Block.empty count ((Text.lines (writeFrom first cues ++ rest)).map Text.trim) =
      readBack first count cues ++ readLines Block.empty
        (count + (readBack first count cues).length)
        ((Text.lines rest).map Text.trim) := by
  induction cues generalizing first count with
  | nil => rfl
  | cons c more ih =>
    rw [List.length_cons] at hcount
    obtain ⟨hstart, hstop⟩ := htimes c (by simp)
    have hmore (n : Nat) := ih (first + 1) n (fun d hd => htimes d (by simp [hd])) (by omega)
    have hcue := cueOf_written count first c (leadingLines c.text) _
      (findTiming_timingLine c hstart hstop) (by omega)
    rw [writeFrom, List.append_assoc, readLines_writeCue, writtenRun, hcue, readBack]
    simp [hmore, Nat.add_assoc, Nat.add_comm]

/-- A file that was written starts with a digit, not with a mark. -/
theorem dropMarks_write (cues : List Cue) : dropMarks (write cues) = write cues := by
  cases cues with
  | nil => rfl
  | cons c rest =>
    have hone : Nat.toDigits 10 1 = ['1'] := by decide
    simp [write, writeFrom, writeCue, hone, dropMarks]

/-- Written cues are read one by one, strays included. -/
theorem parse_write_eq_readBack (cues : List Cue)
    (htimes : ∀ c ∈ cues, c.start < hundredHours ∧ c.stop < hundredHours)
    (hcount : cues.length < Nat.pow 2 64) : parse (write cues) = readBack 1 0 cues := by
  have hread := readLines_writeFrom cues 1 0 [] htimes (by omega)
  rw [List.append_nil] at hread
  rw [parse, dropMarks_write, write, hread]
  exact List.append_nil _

/-- The first part of a list that satisfies a test is all that satisfies it just where nothing
that does comes behind something that does not. -/
theorem takeWhile_eq_filter_iff {α : Type} (p : α → Bool) (xs : List α) :
    xs.takeWhile p = xs.filter p ↔ xs.Pairwise fun x later => p x = false → p later = false := by
  induction xs with
  | nil => simp
  | cons x rest ih =>
    cases hx : p x with
    | true => simp [hx, ih]
    | false =>
      rw [List.takeWhile_cons_of_neg (by simp [hx]), List.filter_cons_of_neg (by simp [hx]),
        List.pairwise_cons, eq_comm, List.filter_eq_nil_iff]
      constructor
      · intro hnone
        have hall : ∀ y ∈ rest, p y = false := fun y hy => by simpa using hnone y hy
        exact ⟨fun y hy _ => hall y hy,
          List.pairwise_of_forall_mem_list fun _ _ z hz _ => hall z hz⟩
      · intro hpairwise y hy
        simp [hpairwise.1 y hy hx]

theorem isWhole_iff (text : String) : IsWhole text ↔
    leadingLines text = (trimmedLines text).filter fun line => !line.isEmpty := by
  rw [leadingLines, takeWhile_eq_filter_iff]
  simp [IsWhole]

/-- Tidy lines are told apart again by the line feeds between them, since no tidy line has one
and none is empty. -/
theorem joinLines_inj (lines others : List (List Char)) (hlines : ∀ line ∈ lines, IsTidyLine line)
    (hothers : ∀ line ∈ others, IsTidyLine line)
    (h : Text.joinLines lines = Text.joinLines others) :
    lines = others := by
  have hcut : ∀ first more, (∀ line ∈ first :: more, IsTidyLine line) →
      Text.splitWhen (· == '\n') (Text.joinLines (first :: more)) = first :: more :=
        fun first more hmem =>
    Text.splitWhen_joinLines first more fun line hline => (hmem line hline).no_break
  -- No lines at all are joined as one that is empty, but no tidy line is empty.
  have hnone : ∀ first more, (∀ line ∈ first :: more, IsTidyLine line) →
      Text.joinLines [] ≠ Text.joinLines (first :: more) := by
    intro first more hmem heq
    have hcut := hcut first more hmem
    rw [← heq] at hcut
    exact (hmem first (by simp)).ne_nil (List.cons.inj hcut).1.symm
  cases lines with
  | nil =>
    cases others with
    | nil => rfl
    | cons first more => exact absurd h (hnone first more hothers)
  | cons first more =>
    cases others with
    | nil => exact absurd h.symm (hnone first more hlines)
    | cons next rest => rw [← hcut first more hlines, h, hcut next rest hothers]

theorem isTidyLine_of_mem_leadingLines (text : String) (line : List Char)
    (h : line ∈ leadingLines text) :
    IsTidyLine line := by
  have hfilled := List.all_eq_true.mp List.all_takeWhile line h
  exact isTidyLine_of_mem_trimmedLines text line ((List.takeWhile_sublist _).mem h)
    (by simpa using hfilled)

theorem leading_eq_tidied_iff (text : String) :
    String.ofList (Text.joinLines (leadingLines text)) = tidied text ↔ IsWhole text := by
  rw [isWhole_iff, tidied, String.ofList_inj]
  constructor
  · intro h
    refine joinLines_inj _ _ (isTidyLine_of_mem_leadingLines text) (fun line hline => ?_) h
    obtain ⟨hmem, hfilled⟩ := List.mem_filter.mp hline
    exact isTidyLine_of_mem_trimmedLines text line hmem (by simpa using hfilled)
  · intro h
    rw [h]

/-- A text that is whole leaves no runs behind its first blank line, because only blank lines are
there. -/
theorem laterRuns_of_isWhole (text : String) (h : IsWhole text) : laterRuns text = [] := by
  have hblank : ∀ line ∈ (trimmedLines text).dropWhile fun line => !line.isEmpty, line = [] := by
    intro line hline
    by_contra hne
    have hlines : leadingLines text ++ ((trimmedLines text).dropWhile fun line => !line.isEmpty) =
        trimmedLines text := List.takeWhile_append_dropWhile
    have hfilter := congrArg (List.filter fun line => !line.isEmpty) hlines
    have hleading : (leadingLines text).filter (fun line => !line.isEmpty) = leadingLines text :=
      List.filter_eq_self.mpr (List.all_eq_true.mp List.all_takeWhile)
    rw [List.filter_append, ← (isWhole_iff text).mp h, hleading, List.append_right_eq_self,
      List.filter_eq_nil_iff] at hfilter
    exact hfilter line hline (by simpa using hne)
  rw [laterRuns, runs, List.filter_eq_nil_iff]
  intro run hrun hfilled
  obtain ⟨line, more, rfl⟩ := List.exists_cons_of_ne_nil (by simpa using hfilled)
  obtain ⟨hmem, hne⟩ := Text.mem_of_mem_splitWhen _ _ _ hrun line (by simp)
  exact absurd (hblank line hmem) (by simpa using hne)

/-- Cues come back one for one, all of their texts included, just where these are whole. -/
theorem readBack_eq_iff (cues : List Cue) (first count : Nat) :
    (readBack first count cues =
      cues.mapIdx fun i c => { c with number := first + i, text := tidied c.text }) ↔
      ∀ c ∈ cues, IsWhole c.text := by
  induction cues generalizing first count with
  | nil => simp [readBack]
  | cons c rest ih =>
    simp only [readBack, List.mapIdx_cons, List.cons.injEq, Cue.mk.injEq, Nat.add_zero, true_and,
      List.forall_mem_cons, leading_eq_tidied_iff, ← Nat.add_assoc, Nat.add_right_comm first _ 1]
    apply and_congr_right
    intro hwhole
    rw [laterRuns_of_isWhole c.text hwhole]
    exact ih (first + 1) (count + 1)

end Subtitling.Subtitle.Srt
