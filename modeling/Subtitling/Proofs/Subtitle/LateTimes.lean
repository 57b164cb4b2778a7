import Mathlib.Data.List.Basic
import Subtitling.Proofs.Subtitle.RoundTrip

/-!
Times of a hundred hours and more. They are written with all digits of their hours, but a stamp
in a line has two at most, so that what a search finds in such a line is never what was written:
without its first digits a start is found too early, and behind the arrow nothing is found at
all.
-/

namespace Subtitling.Subtitle.Srt

/-- A written time is cut at its colons. -/
theorem splitWhen_chars (ms : Nat) : Text.splitWhen (· == ':') (Timestamp.chars ms) =
    [padded 2 (ms / 3600000), padded 2 (ms % 3600000 / 60000),
      padded 2 (ms % 60000 / 1000) ++ ',' :: padded 3 (ms % 1000)] := by
  have hpadded (width n : Nat) : ':' ∉ padded width n := fun hcolon =>
    absurd (isDigit_of_mem_padded width n ':' hcolon) (by decide)
  have hlast : ':' ∉ padded 2 (ms % 60000 / 1000) ++ ',' :: padded 3 (ms % 1000) := by
    simp [hpadded]
  have hchars : Timestamp.chars ms =
    padded 2 (ms / 3600000) ++ ':' :: (padded 2 (ms % 3600000 / 60000) ++
      ':' :: (padded 2 (ms % 60000 / 1000) ++ ',' :: padded 3 (ms % 1000))) := by
    simp [Timestamp.chars]
  rw [hchars, Text.splitWhen_append_cons _ _ _ ':' rfl, Text.splitWhen_append_cons _ _ _ ':' rfl,
    Text.splitWhen_of_not_mem ':' _ (hpadded _ _), Text.splitWhen_of_not_mem ':' _ (hpadded _ _),
    Text.splitWhen_of_not_mem ':' _ hlast]
  rfl

theorem not_mem_digits (digits : List Char) (c : Char)
    (h : ∀ d ∈ digits, Text.isDecimalDigit d = true) (hc : Text.isDecimalDigit c = false) :
    c ∉ digits := by
  intro hmem
  rw [h c hmem] at hc
  cases hc

/-- A stamp behind other characters is cut at its colons, too. So whatever stands before it
becomes part of its hours. -/
theorem Stamp.splitWhen_append_text (s : Stamp) (front : List Char) :
    Text.splitWhen (· == ':') (front ++ s.text) =
      Text.splitWhen (· == ':') (front ++ s.hours) ++
        [s.minutes, s.seconds ++ s.mark :: s.millis] := by
  have hminutes := not_mem_digits s.minutes ':' s.isDigit_minutes (by decide)
  have hseconds := not_mem_digits s.seconds ':' s.isDigit_seconds (by decide)
  have hmillis := not_mem_digits s.millis ':' s.isDigit_millis (by decide)
  have hmark : ':' ≠ s.mark := by
    rcases s.mark_eq with hmark | hmark
    · rw [hmark]
      decide
    · rw [hmark]
      decide
  have hlast : ':' ∉ s.seconds ++ s.mark :: s.millis := by
    simp [hseconds, hmillis, hmark]
  rw [Stamp.text, ← List.append_assoc, Text.splitWhen_append_cons _ _ _ ':' rfl,
    Text.splitWhen_append_cons _ _ _ ':' rfl, Text.splitWhen_of_not_mem ':' _ hminutes,
    Text.splitWhen_of_not_mem ':' _ hlast]
  rfl

/-- A written time that begins with a stamp has two digits of hours. -/
theorem lt_of_chars_eq_append (ms : Nat) (s : Stamp) (back : List Char)
    (h : Timestamp.chars ms = s.text ++ back) : ms < hundredHours := by
  have hsplit := splitWhen_chars ms
  rw [h, Stamp.text, List.append_assoc, List.cons_append, Text.splitWhen_append_cons _ _ _ ':' rfl,
    Text.splitWhen_of_not_mem ':' _ (not_mem_digits s.hours ':' s.isDigit_hours
      (by decide))] at hsplit
  have hhours : s.hours = padded 2 (ms / 3600000) := (List.cons.inj hsplit).1
  have hlength : (Nat.toDigits 10 (ms / 3600000)).length ≤ 2 := by
    have hle := s.length_hours
    rw [hhours, padded, List.length_append] at hle
    omega
  have hlt := (Nat.length_toDigits_le_iff (by decide) (by decide)).mp hlength
  rw [hundredHours]
  omega

/-- A stamp at the end of a written time has its minutes and seconds, and so is below a hundred
hours. -/
theorem Stamp.time_lt_of_chars_eq (ms : Nat) (s : Stamp) (front : List Char)
    (h : Timestamp.chars ms = front ++ s.text) : s.time < hundredHours := by
  have hsplit := splitWhen_chars ms
  rw [h, s.splitWhen_append_text front] at hsplit
  have hparts := List.append_inj_right' (hsplit.trans List.singleton_append.symm) rfl
  obtain ⟨hminutes, hrest⟩ := List.cons.inj hparts
  have hlast := (List.cons.inj hrest).1
  obtain ⟨hseconds, -⟩ := List.append_inj hlast
    (s.length_seconds.trans (length_padded 2 _ (by decide) (by omega)).symm)
  have hhours := s.hours_lt
  have hmillis := partValue_lt s.millis
  rw [s.length_millis] at hmillis
  rw [Stamp.time, hminutes, hseconds, partValue_padded, partValue_padded, hundredHours]
  omega

/-- Texts that do not end in a blank can be told from the blanks behind them. -/
theorem eq_of_append_blanks (text other blanks more : List Char)
    (htext : ∀ c ∈ text, Text.isBlank c = false)
    (hother : ∀ c ∈ other.getLast?, Text.isBlank c = false)
    (hblanks : ∀ c ∈ blanks, Text.isBlank c = true) (hmore : ∀ c ∈ more, Text.isBlank c = true)
    (h : text ++ blanks = other ++ more) : text = other := by
  have hreversed : text.reverse = other.reverse := by
    rw [← trimLeft_append blanks.reverse text.reverse (by simpa using hblanks) fun c hc =>
        htext c (List.mem_reverse.mp (List.mem_of_mem_head? hc)),
      ← trimLeft_append more.reverse other.reverse (by simpa using hmore) fun c hc =>
        hother c (List.head?_reverse ▸ hc), ← List.reverse_append, ← List.reverse_append, h]
  exact List.reverse_inj.mp hreversed

/-- What a search finds in a line with times is a stamp at the end of the first and one at the
front of the second. -/
theorem exists_stamps_of_findTiming (c : Cue) (times : Nat × Nat)
    (h : findTiming (timingLine c) = some times) :
    ∃ (start stop : Stamp) (front back : List Char), Timestamp.chars c.start = front ++ start.text ∧
      Timestamp.chars c.stop = stop.text ++ back ∧ times = (start.time, stop.time) := by
  obtain ⟨front, timing, back, hline, rfl, -⟩ := (findTiming_eq_some_iff _ _).mp h
  have harrow (ms : Nat) : '>' ∉ Timestamp.chars ms :=
    not_mem_chars ms '>' (by decide) (by decide) (by decide)
  -- There is one arrow in the line, so that it is the one of the timing.
  have hcut : (Timestamp.chars c.start ++ [' ', '-', '-']) ++ '>' ::
    (' ' :: Timestamp.chars c.stop) =
      (front ++ timing.start.text ++ timing.before ++ ['-', '-']) ++
        '>' :: (timing.after ++ (timing.stop.text ++ back)) := by
    rw [timingLine, Timing.text] at hline
    simpa using hline
  obtain ⟨hbefore, -, hafter⟩ :=
    (List.append_cons_inj_of_notMem (by simp [harrow]) (by simp [harrow])).mp hcut
  refine ⟨timing.start, timing.stop, front, back, ?_, ?_, rfl⟩
  · have hdashes : (Timestamp.chars c.start ++ [' ']) ++ ['-', '-'] =
        (front ++ timing.start.text ++ timing.before) ++ ['-', '-'] := by
      simpa using hbefore
    have hspaced := List.append_cancel_right hdashes
    exact eq_of_append_blanks _ _ _ _ (not_isBlank_of_mem_chars c.start)
      (timing.start.not_isBlank_last front) (by simp [Text.isBlank]) timing.isBlank_before hspaced
  · have hstop := congrArg Text.trimLeft hafter
    rwa [trimLeft_append timing.after _ timing.isBlank_after (timing.stop.not_isBlank_head back),
      ← List.singleton_append, trimLeft_append [' '] _ (by simp [Text.isBlank]) fun d hd =>
        not_isBlank_of_mem_chars c.stop d (List.mem_of_mem_head? hd)] at hstop

/-- Times are found in a line as they were written just where both are below a hundred hours. -/
theorem findTiming_timingLine_iff (c : Cue) : findTiming (timingLine c) = some (c.start, c.stop) ↔
    c.start < hundredHours ∧ c.stop < hundredHours := by
  constructor
  · intro h
    obtain ⟨start, stop, front, back, hstart, hstop, htimes⟩ := exists_stamps_of_findTiming c _ h
    refine ⟨?_, lt_of_chars_eq_append c.stop stop back hstop⟩
    rw [(Prod.mk.inj htimes).1]
    exact start.time_lt_of_chars_eq c.start front hstart
  · rintro ⟨hstart, hstop⟩
    exact findTiming_timingLine c hstart hstop

/-- Nothing is found in front of a late end. -/
theorem findTiming_timingLine_of_late (c : Cue) (hstop : hundredHours ≤ c.stop) :
    findTiming (timingLine c) = none := by
  rw [Option.eq_none_iff_forall_ne_some]
  intro times h
  obtain ⟨-, stop, -, back, -, hback, -⟩ := exists_stamps_of_findTiming c times h
  exact absurd (lt_of_chars_eq_append c.stop stop back hback) (by omega)

/-- The leading lines of a tidy text are all it has. -/
theorem IsTidyText.joinLines_leadingLines (text : String) (h : IsTidyText text) :
    String.ofList (Text.joinLines (leadingLines text)) = text ∧ laterRuns text = [] := by
  obtain ⟨hwhole, htidied⟩ := h.isWhole_and_tidied_eq
  exact ⟨((leading_eq_tidied_iff text).mpr hwhole).trans htidied, laterRuns_of_isWhole text hwhole⟩

/-- Where no time is found in its line, the lines of a written cue have a timing only if its text
has, and the line is text as well. -/
theorem cueOf_writtenRun_of_none (count number : Nat) (c d : Cue) (hnumber : number < Nat.pow 2 64)
    (hnone : findTiming (timingLine c) = none) (h : cueOf? count (writtenRun number c) = some d) :
    ∃ before line after, leadingLines c.text = before ++ line :: after ∧
      (∀ other ∈ before, findTiming other = none) ∧ (findTiming line).isSome = true ∧
      d.text = String.ofList (Text.joinLines (timingLine c :: before ++ after)) := by
  have huntimed : ∀ line ∈ [Nat.toDigits 10 number, timingLine c], (findTiming line).isNone =
    true := by
    simp [findTiming_toDigits, hnone]
  have hrun : writtenRun number c = [Nat.toDigits 10 number, timingLine c] ++ leadingLines c.text :=
    rfl
  rw [cueOf?, hrun, List.takeWhile_append_of_pos huntimed,
    List.dropWhile_append_of_pos huntimed] at h
  have hlines : leadingLines c.text = _ ++ _ :=
    (List.takeWhile_append_dropWhile (p := fun line => (findTiming line).isNone)).symm
  split at h
  · cases h
  · rename_i line after hdrop
    have hfirst :=
      List.head?_dropWhile_not (fun line => (findTiming line).isNone) (leadingLines c.text)
    rw [hdrop] at hfirst hlines
    obtain ⟨times, -, rfl⟩ := Option.map_eq_some_iff.mp h
    refine ⟨_, line, after, hlines, ?_, Option.isNone_eq_false_iff.mp hfirst, ?_⟩
    · intro other hother
      simpa using List.all_eq_true.mp List.all_takeWhile other hother
    · simp [splitNumber, Number.unsigned_toDigits number hnumber]

/-- A written cue is read as it was only if its times are found in their line: if they are not,
that line is text, and the text comes out longer. -/
theorem times_of_cueOf_written (count number : Nat) (c : Cue) (htext : IsTidyText c.text)
    (hnumber : number < Nat.pow 2 64)
    (h : cueOf? count (writtenRun number c) = some { c with number := number }) :
    c.start < hundredHours ∧ c.stop < hundredHours := by
  rw [← findTiming_timingLine_iff]
  cases htimes : findTiming (timingLine c) with
  | some times =>
    rw [writtenRun, cueOf_written count number c _ times htimes hnumber, Option.some.injEq,
      Cue.mk.injEq] at h
    obtain ⟨-, hstart, hstop, -⟩ := h
    rw [← hstart, ← hstop]
  | none =>
    obtain ⟨before, line, after, hlines, hbefore, hline, hread⟩ :=
      cueOf_writtenRun_of_none count number c _ hnumber htimes h
    have htidy : ∀ other ∈ before ++ line :: after, IsTidyLine other := by
      rw [← hlines]
      exact isTidyLine_of_mem_leadingLines c.text
    have hjoined : timingLine c :: before ++ after = before ++ line :: after := by
      refine joinLines_inj _ _ (fun other hother => ?_) htidy ?_
      · rcases List.mem_cons.mp hother with rfl | hmem
        · exact isTidyLine_timingLine c
        · exact htidy other (by simpa [or_left_comm] using .inr (List.mem_append.mp hmem))
      · rw [← hlines, ← String.ofList_inj, htext.joinLines_leadingLines.1]
        exact hread.symm
    -- Both have the lines behind, but only one has a timing before them.
    have hnone : before.countP (fun other => (findTiming other).isSome) = 0 :=
      List.countP_eq_zero.mpr fun other hother => by simp [hbefore other hother]
    have hcount := congrArg (List.countP fun other => (findTiming other).isSome) hjoined
    simp [hnone, htimes, hline] at hcount

/-- A written cue with a tidy text is read as one run, whatever its times. -/
theorem readLines_writeCue_of_tidy (count number : Nat) (c : Cue) (rest : List Char)
    (htext : IsTidyText c.text) :
    readLines Block.empty count ((Text.lines (writeCue number c ++ rest)).map Text.trim) =
      let own := (cueOf? count (writtenRun number c)).toList
      own ++ readLines Block.empty (count + own.length) ((Text.lines rest).map Text.trim) := by
  rw [readLines_writeCue, htext.joinLines_leadingLines.2]
  rfl

/-- Cues with tidy texts are read as no more cues than there are. -/
theorem length_readLines_writeFrom_le (cues : List Cue) (first count : Nat)
    (htexts : ∀ c ∈ cues, IsTidyText c.text) :
    (readLines Block.empty count ((Text.lines (writeFrom first cues)).map Text.trim)).length ≤
      cues.length := by
  induction cues generalizing first count with
  | nil => exact Nat.le_refl 0
  | cons c rest ih =>
    have hrest (n : Nat) := ih (first + 1) n fun d hd => htexts d (by simp [hd])
    rw [writeFrom, readLines_writeCue_of_tidy _ _ _ _ (htexts c (by simp)), List.length_cons]
    cases cueOf? count (writtenRun first c) with
    | none => exact Nat.le_succ_of_le (hrest _)
    | some d => exact Nat.succ_le_succ (hrest _)

/-- Cues that are all read as they were written are below a hundred hours: no run is lost, as no
other can make up for it. -/
theorem times_of_readLines_writeFrom (cues : List Cue) (first count : Nat)
    (htexts : ∀ c ∈ cues, IsTidyText c.text) (hcount : first + cues.length ≤ Nat.pow 2 64)
    (h : readLines Block.empty count ((Text.lines (writeFrom first cues)).map Text.trim) =
      cues.mapIdx fun i c => { c with number := first + i }) :
    ∀ c ∈ cues, c.start < hundredHours ∧ c.stop < hundredHours := by
  induction cues generalizing first count with
  | nil => nofun
  | cons c rest ih =>
    have htext := htexts c (by simp)
    have hrest : ∀ d ∈ rest, IsTidyText d.text := fun d hd => htexts d (by simp [hd])
    rw [List.length_cons] at hcount
    rw [writeFrom, readLines_writeCue_of_tidy count first c _ htext, List.mapIdx_cons] at h
    cases hown : cueOf? count (writtenRun first c) with
    | none =>
      rw [hown] at h
      have hlength := length_readLines_writeFrom_le rest (first + 1) count hrest
      have hmore := congrArg List.length h
      simp only [Option.toList_none, List.nil_append, List.length_nil, Nat.add_zero,
        List.length_cons, List.length_mapIdx] at hmore
      omega
    | some d =>
      simp only [hown, Option.toList_some, List.singleton_append, List.cons.injEq,
        Nat.add_zero] at h
      obtain ⟨hfirst, hmore⟩ := h
      have hc := times_of_cueOf_written count first c htext (by omega) (by rw [hown, hfirst])
      simp only [← Nat.add_assoc, Nat.add_right_comm first _ 1] at hmore
      have hothers := ih (first + 1) _ hrest (by omega) hmore
      intro e he
      rcases List.mem_cons.mp he with rfl | hmem
      · exact hc
      · exact hothers e hmem

/-- Cues with tidy texts come back from a file just where all times are below a hundred hours. -/
theorem parse_write_iff (cues : List Cue) (htexts : ∀ c ∈ cues, IsTidyText c.text)
    (hcount : cues.length < Nat.pow 2 64) :
    (parse (write cues) = cues.mapIdx fun i c => { c with number := i + 1 }) ↔
      ∀ c ∈ cues, c.start < hundredHours ∧ c.stop < hundredHours := by
  constructor
  · intro h
    rw [parse, dropMarks_write, write] at h
    simp only [Nat.add_comm _ 1] at h
    exact times_of_readLines_writeFrom cues 1 0 htexts (by omega) h
  · intro htimes
    exact parse_write cues (fun c hc => ⟨htexts c hc, (htimes c hc).1, (htimes c hc).2⟩) hcount

theorem writeFrom_append (cues more : List Cue) (first : Nat) :
    writeFrom first (cues ++ more) = writeFrom first cues ++
      writeFrom (first + cues.length) more := by
  induction cues generalizing first with
  | nil => rfl
  | cons c rest ih =>
    rw [List.cons_append, writeFrom, ih, writeFrom, List.append_assoc, List.length_cons,
      Nat.add_assoc, Nat.add_comm 1]

theorem mem_of_mem_leadingLines (text : String) (line : List Char) (h : line ∈ leadingLines text)
    (c : Char) (hc : c ∈ line) : c ∈ text.toList := by
  obtain ⟨source, hsource, rfl⟩ := List.mem_map.mp ((List.takeWhile_sublist _).mem h)
  exact (Text.mem_of_mem_splitWhen _ _ source hsource c (Text.mem_of_mem_trim source c hc)).1

/-- A last cue that ends late and has no timing in its text is lost, and nothing else is. Behind
its arrow stand more digits than hours can have, so no timing is found in its lines and the block
is dropped. -/
theorem parse_write_append_of_late (cues : List Cue) (last : Cue) (htidy : ∀ c ∈ cues, IsTidy c)
    (htext : IsTidyText last.text) (hcolon : ':' ∉ last.text.toList)
    (hstop : hundredHours ≤ last.stop) (hcount : cues.length + 1 < Nat.pow 2 64) :
    parse (write (cues ++ [last])) = cues.mapIdx fun i c => { c with number := i + 1 } := by
  have htimes : ∀ c ∈ cues, c.start < hundredHours ∧ c.stop < hundredHours := fun c hc =>
    ⟨(htidy c hc).start, (htidy c hc).stop⟩
  have hback := parse_write_eq_readBack cues htimes (by omega)
  rw [parse_write cues htidy (by omega)] at hback
  have hnone (n : Nat) : cueOf? n (writtenRun (1 + cues.length) last) = none := by
    rw [Option.eq_none_iff_forall_ne_some]
    intro d hd
    have huntimed := findTiming_timingLine_of_late last hstop
    obtain ⟨before, line, after, hlines, -, hline, -⟩ :=
      cueOf_writtenRun_of_none n _ last d (by omega) huntimed hd
    have hmem : line ∈ leadingLines last.text := by simp [hlines]
    rw [findTiming_eq_none line fun hc => hcolon (mem_of_mem_leadingLines _ _ hmem _ hc)] at hline
    cases hline
  have hlast (n : Nat) : readLines Block.empty n
      ((Text.lines (writeFrom (1 + cues.length) [last])).map Text.trim) = [] := by
    rw [writeFrom, readLines_writeCue_of_tidy _ _ _ _ htext, hnone]
    rfl
  rw [parse, dropMarks_write, write, writeFrom_append,
    readLines_writeFrom cues 1 0 _ htimes (by omega), hlast, List.append_nil, hback]

end Subtitling.Subtitle.Srt
