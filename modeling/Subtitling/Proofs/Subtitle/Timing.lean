import Subtitling.Proofs.Text.Blank
import Subtitling.Subtitle.Srt

/-!
What a timing is. A stamp is one or two digits, two, two and three, between its colons and the comma
or point; a timing is two stamps with an arrow between them. Reading one off the front of a text
finds exactly these, and searching a line finds the first place where one begins.
-/

namespace Subtitling.Subtitle.Srt

/-- A time stamp as it stands in a line; digits are those of any script. -/
structure Stamp where
  hours : List Char
  minutes : List Char
  seconds : List Char
  mark : Char
  millis : List Char
  length_hours : hours.length = 1 ∨ hours.length = 2
  length_minutes : minutes.length = 2
  length_seconds : seconds.length = 2
  length_millis : millis.length = 3
  mark_eq : mark = ',' ∨ mark = '.'
  isDigit_hours : ∀ c ∈ hours, Text.isDecimalDigit c = true
  isDigit_minutes : ∀ c ∈ minutes, Text.isDecimalDigit c = true
  isDigit_seconds : ∀ c ∈ seconds, Text.isDecimalDigit c = true
  isDigit_millis : ∀ c ∈ millis, Text.isDecimalDigit c = true

def Stamp.text (s : Stamp) : List Char :=
  s.hours ++ ':' :: (s.minutes ++ ':' :: (s.seconds ++ s.mark :: s.millis))

/-- The time that a stamp says, in milliseconds. -/
def Stamp.time (s : Stamp) : Nat :=
  (partValue s.hours * 3600 + partValue s.minutes * 60 + partValue s.seconds) * 1000 +
    partValue s.millis

/-- Two stamps with an arrow between them, which blanks may surround. -/
structure Timing where
  start : Stamp
  before : List Char
  after : List Char
  stop : Stamp
  isBlank_before : ∀ c ∈ before, Text.isBlank c = true
  isBlank_after : ∀ c ∈ after, Text.isBlank c = true

def Timing.text (t : Timing) : List Char :=
  t.start.text ++ (t.before ++ '-' :: '-' :: '>' :: (t.after ++ t.stop.text))

def Timing.times (t : Timing) : Nat × Nat := (t.start.time, t.stop.time)

theorem takeDigits_eq_some_iff (n value : Nat) (cs rest : List Char) :
    takeDigits n cs = some (value, rest) ↔ ∃ digits, cs = digits ++ rest ∧ digits.length = n ∧
      (∀ c ∈ digits, Text.isDecimalDigit c = true) ∧ value = partValue digits := by
  simp only [takeDigits]
  constructor
  · intro h
    split at h
    · rename_i hdigits
      simp only [Bool.and_eq_true, decide_eq_true_eq, List.all_eq_true] at hdigits
      obtain ⟨rfl, rfl⟩ := Prod.mk.inj (Option.some.inj h)
      exact ⟨cs.take n, (List.take_append_drop n cs).symm, hdigits.1, hdigits.2, rfl⟩
    · cases h
  · rintro ⟨digits, rfl, rfl, hdigits, rfl⟩
    have hall : digits.all Text.isDecimalDigit = true := List.all_eq_true.mpr hdigits
    simp [hall]

theorem takeOneOf_eq_some_iff (set cs rest : List Char) :
    takeOneOf set cs = some rest ↔ ∃ c ∈ set, cs = c :: rest := by
  cases cs with
  | nil => simp [takeOneOf]
  | cons c more =>
    simp only [takeOneOf, List.contains_iff_mem]
    constructor
    · intro h
      split at h
      · rename_i hmem
        obtain rfl := Option.some.inj h
        exact ⟨c, hmem, rfl⟩
      · cases h
    · rintro ⟨d, hmem, heq⟩
      obtain ⟨rfl, rfl⟩ := List.cons.inj heq
      simp [hmem]

/-- A colon is no digit, so the digits of the hours are as many as stand before it. -/
theorem takeDigits_two_of_colon (digit : Char) (rest : List Char) :
    takeDigits 2 (digit :: ':' :: rest) = none := by
  have hcolon : Text.isDecimalDigit ':' = false := by decide
  simp [takeDigits, hcolon]

/-- The hours of a stamp are one digit or two before a colon. Two are tried first, and one where
no colon follows the two, so longer hours are not found. -/
theorem takeHours_eq_some_iff (value : Nat) (cs rest : List Char) :
    takeHours cs = some (value, rest) ↔ ∃ digits, cs = digits ++ ':' :: rest ∧
      (digits.length = 1 ∨ digits.length = 2) ∧ (∀ c ∈ digits, Text.isDecimalDigit c = true) ∧
      value = partValue digits := by
  simp only [takeHours, Option.bind_eq_bind, Option.orElse_eq_orElse, Option.orElse_eq_or,
    Option.or_eq_some_iff, Option.bind_eq_some_iff, Option.pure_def, Option.some.injEq,
    Prod.mk.injEq, Prod.exists, takeDigits_eq_some_iff, takeOneOf_eq_some_iff, List.mem_singleton,
    exists_eq_left]
  constructor
  · rintro (⟨_, _, ⟨digits, rfl, hlength, hdigits, rfl⟩, _, rfl, rfl, rfl⟩ |
      ⟨-, _, _, ⟨digits, rfl, hlength, hdigits, rfl⟩, _, rfl, rfl, rfl⟩)
    · exact ⟨digits, rfl, .inr hlength, hdigits, rfl⟩
    · exact ⟨digits, rfl, .inl hlength, hdigits, rfl⟩
  · rintro ⟨digits, rfl, hlength | hlength, hdigits, rfl⟩
    · obtain ⟨digit, rfl⟩ := List.length_eq_one_iff.mp hlength
      refine .inr ⟨?_, _, _, ⟨[digit], rfl, hlength, hdigits, rfl⟩, rest, rfl, rfl, rfl⟩
      rw [List.singleton_append, takeDigits_two_of_colon]
      rfl
    · exact .inl ⟨_, _, ⟨digits, rfl, hlength, hdigits, rfl⟩, rest, rfl, rfl, rfl⟩

/-- What is read off the front of a text is a stamp. -/
theorem takeStamp_eq_some_iff (time : Nat) (cs rest : List Char) :
    takeStamp cs = some (time, rest) ↔ ∃ s : Stamp, cs = s.text ++ rest ∧ time = s.time := by
  simp only [takeStamp, Option.bind_eq_bind, Option.bind_eq_some_iff, Option.pure_def,
    Option.some.injEq, Prod.mk.injEq, Prod.exists, takeHours_eq_some_iff, takeDigits_eq_some_iff,
    takeOneOf_eq_some_iff, List.mem_cons, List.not_mem_nil, or_false]
  constructor
  · rintro ⟨_, _, ⟨hours, rfl, hhours, dhours, rfl⟩, _, _, ⟨minutes, rfl, hminutes, dminutes, rfl⟩,
      _, ⟨_, rfl, rfl⟩, _, _, ⟨seconds, rfl, hseconds, dseconds, rfl⟩, _, ⟨mark, hmark, rfl⟩, _, _,
      ⟨millis, rfl, hmillis, dmillis, rfl⟩, rfl, rfl⟩
    refine ⟨⟨hours, minutes, seconds, mark, millis, hhours, hminutes, hseconds, hmillis, hmark,
      dhours, dminutes, dseconds, dmillis⟩, ?_, rfl⟩
    simp [Stamp.text]
  · rintro ⟨s, rfl, rfl⟩
    refine ⟨_, _, ⟨s.hours, ?_, s.length_hours, s.isDigit_hours, rfl⟩, _, _,
      ⟨s.minutes, rfl, s.length_minutes, s.isDigit_minutes, rfl⟩, _, ⟨':', rfl, rfl⟩, _, _,
      ⟨s.seconds, rfl, s.length_seconds, s.isDigit_seconds, rfl⟩, _, ⟨s.mark, s.mark_eq, rfl⟩, _, _,
      ⟨s.millis, rfl, s.length_millis, s.isDigit_millis, rfl⟩, rfl, rfl⟩
    simp [Stamp.text]

/-- No blank is part of a stamp. -/
theorem Stamp.not_isBlank_of_mem (s : Stamp) (c : Char) (h : c ∈ s.text) :
    Text.isBlank c = false := by
  have hdigit (digits : List Char) (hdigits : ∀ d ∈ digits, Text.isDecimalDigit d = true)
      (hc : c ∈ digits) : Text.isBlank c = false :=
    Text.not_isBlank_of_isDecimalDigit c (hdigits c hc)
  simp only [Stamp.text, List.mem_append, List.mem_cons] at h
  rcases h with hc | rfl | hc | rfl | hc | rfl | hc
  · exact hdigit _ s.isDigit_hours hc
  · decide
  · exact hdigit _ s.isDigit_minutes hc
  · decide
  · exact hdigit _ s.isDigit_seconds hc
  · rcases s.mark_eq with hmark | hmark
    · rw [hmark]
      decide
    · rw [hmark]
      decide
  · exact hdigit _ s.isDigit_millis hc

theorem Stamp.text_ne_nil (s : Stamp) : s.text ≠ [] := by simp [text]

theorem Stamp.not_isBlank_head (s : Stamp) (rest : List Char) :
    ∀ c ∈ (s.text ++ rest).head?, Text.isBlank c = false := by
  intro c hc
  rw [List.head?_append, List.head?_eq_some_head s.text_ne_nil, Option.some_or] at hc
  obtain rfl := Option.some.inj hc
  exact s.not_isBlank_of_mem _ (List.head_mem s.text_ne_nil)

theorem Stamp.not_isBlank_last (s : Stamp) (front : List Char) :
    ∀ c ∈ (front ++ s.text).getLast?, Text.isBlank c = false := by
  intro c hc
  rw [List.getLast?_append, List.getLast?_eq_some_getLast s.text_ne_nil, Option.some_or] at hc
  obtain rfl := Option.some.inj hc
  exact s.not_isBlank_of_mem _ (List.getLast_mem s.text_ne_nil)

theorem trimLeft_append (blanks rest : List Char) (hblanks : ∀ c ∈ blanks, Text.isBlank c = true)
    (hrest : ∀ c ∈ rest.head?, Text.isBlank c = false) : Text.trimLeft (blanks ++ rest) = rest := by
  rw [Text.trimLeft, List.dropWhile_append_of_pos hblanks,
    Text.dropWhile_isBlank_of_head rest hrest]

theorem exists_trimLeft (cs : List Char) :
    ∃ blanks, (∀ c ∈ blanks, Text.isBlank c = true) ∧ cs = blanks ++ Text.trimLeft cs :=
  ⟨cs.takeWhile Text.isBlank, List.all_eq_true.mp List.all_takeWhile,
    List.takeWhile_append_dropWhile.symm⟩

theorem takeArrow_eq_some_iff (cs rest : List Char) : takeArrow cs = some rest ↔
    ∃ after, Text.trimLeft cs = '-' :: '-' :: '>' :: after ∧ rest = Text.trimLeft after := by
  simp only [takeArrow]
  split
  · rename_i after harrow
    simp [harrow, eq_comm]
  · rename_i hother
    simp only [reduceCtorEq, false_iff, not_exists, not_and]
    intro after harrow
    exact absurd harrow (hother after)

/-- What is read off the front of a text is a timing. -/
theorem takeTiming_eq_some_iff (cs : List Char) (times : Nat × Nat) :
    takeTiming cs = some times ↔
      ∃ (timing : Timing) (rest : List Char), cs = timing.text ++ rest ∧ times = timing.times := by
  simp only [takeTiming, Option.bind_eq_bind, Option.bind_eq_some_iff, Option.pure_def,
    Option.some.injEq, Prod.exists, takeStamp_eq_some_iff, takeArrow_eq_some_iff]
  constructor
  · rintro ⟨_, gap, ⟨start, rfl, rfl⟩, _, ⟨behind, harrow, rfl⟩, _, rest, ⟨stop, hstop, rfl⟩, rfl⟩
    obtain ⟨before, hbefore, hgap⟩ := exists_trimLeft gap
    obtain ⟨after, hafter, hbehind⟩ := exists_trimLeft behind
    refine ⟨⟨start, before, after, stop, hbefore, hafter⟩, rest, ?_, rfl⟩
    rw [hgap, harrow, hbehind, hstop]
    simp [Timing.text]
  · rintro ⟨timing, rest, rfl, rfl⟩
    refine ⟨_, timing.before ++ '-' :: '-' :: '>' :: (timing.after ++ (timing.stop.text ++ rest)),
      ⟨timing.start, by simp [Timing.text], rfl⟩, _,
      ⟨timing.after ++ (timing.stop.text ++ rest), ?_, rfl⟩, _, rest, ⟨timing.stop, ?_, rfl⟩, rfl⟩
    · exact trimLeft_append _ _ timing.isBlank_before (by simp [Text.isBlank])
    · exact trimLeft_append _ _ timing.isBlank_after (timing.stop.not_isBlank_head rest)

/-- A timing begins behind the front of a line, and none begins earlier. -/
def IsFirstTiming (line : List Char) (times : Nat × Nat) : Prop :=
  ∃ (front : List Char) (timing : Timing) (back : List Char),
    line = front ++ (timing.text ++ back) ∧ times = timing.times ∧
      ∀ (earlier : List Char) (other : Timing) (rest : List Char),
        line = earlier ++ (other.text ++ rest) → front.length ≤ earlier.length

theorem takeTiming_eq_none_iff (cs : List Char) : takeTiming cs = none ↔
    ∀ (timing : Timing) (rest : List Char), cs ≠ timing.text ++ rest := by
  rw [Option.eq_none_iff_forall_ne_some]
  constructor
  · intro h timing rest heq
    exact h timing.times ((takeTiming_eq_some_iff cs timing.times).mpr ⟨timing, rest, heq, rfl⟩)
  · intro h times hsome
    obtain ⟨timing, rest, heq, -⟩ := (takeTiming_eq_some_iff cs times).mp hsome
    exact h timing rest heq

/-- A search finds the times of the first timing of a line. It tries each place of the line from
the front, and a place where a timing begins is never passed over. -/
theorem findTiming_eq_some_iff (line : List Char) (times : Nat × Nat) :
    findTiming line = some times ↔ IsFirstTiming line times := by
  induction line with
  | nil =>
    simp only [findTiming, reduceCtorEq, false_iff]
    rintro ⟨front, timing, back, hline, -⟩
    simp [Timing.text] at hline
  | cons c rest ih =>
    simp only [findTiming, Option.orElse_eq_orElse, Option.orElse_eq_or, Option.or_eq_some_iff]
    constructor
    · rintro (hhere | ⟨hnone, hlater⟩)
      · obtain ⟨timing, back, hline, htimes⟩ := (takeTiming_eq_some_iff _ times).mp hhere
        exact ⟨[], timing, back, hline, htimes, fun _ _ _ _ => Nat.zero_le _⟩
      · obtain ⟨front, timing, back, rfl, htimes, hfirst⟩ := ih.mp hlater
        refine ⟨c :: front, timing, back, rfl, htimes, ?_⟩
        intro earlier other after hline
        cases earlier with
        | nil => exact absurd hline ((takeTiming_eq_none_iff _).mp hnone other after)
        | cons d more =>
          have hmore := hfirst more other after (List.cons.inj hline).2
          simpa using hmore
    · rintro ⟨front, timing, back, hline, htimes, hfirst⟩
      cases front with
      | nil => exact .inl ((takeTiming_eq_some_iff _ times).mpr ⟨timing, back, hline, htimes⟩)
      | cons d more =>
        obtain ⟨rfl, rfl⟩ := List.cons.inj hline
        refine .inr ⟨(takeTiming_eq_none_iff _).mpr fun other after heq => ?_, ih.mpr ?_⟩
        · have hle := hfirst [] other after heq
          simp at hle
        · refine ⟨more, timing, back, rfl, htimes, ?_⟩
          intro earlier other after heq
          have hle := hfirst (c :: earlier) other after (by rw [heq, List.cons_append])
          simpa using hle

end Subtitling.Subtitle.Srt
