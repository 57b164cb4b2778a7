import Mathlib.Data.List.Forall2
import Mathlib.Data.List.TakeWhile
import Subtitling.Proofs.Subtitle.Blocks
import Subtitling.Proofs.Subtitle.LateHours
import Subtitling.Proofs.Subtitle.Times

/-!
A stamp read in its file and on its own. On its own a stamp is a time only if its digits are
ASCII and its minutes and seconds are below sixty; in a file nothing of this is asked, a part
without a value counts as zero and what is too large is carried on. The two agree on every stamp
that is a time, and a block with another makes a cue all the same.
-/

namespace Subtitling.Subtitle.Srt

def Stamp.string (s : Stamp) : String := String.ofList s.text

/-- The parts of a stamp under their names, in the order they stand in. -/
def Stamp.parts (s : Stamp) : List (Timestamp.Part × List Char) :=
  [(.hours, s.hours), (.minutes, s.minutes), (.seconds, s.seconds), (.milliseconds, s.millis)]

/-- Why a stamp is no time: the first part that has other digits than the ASCII ones, or else
minutes or seconds that are not below sixty. -/
def Stamp.fault? (s : Stamp) : Option Timestamp.Failure :=
  match s.parts.find? fun part => !Number.areDigits part.2 with
  | some part => some (.part part.1)
  | none =>
    if 60 ≤ partValue s.minutes ∨ 60 ≤
      partValue s.seconds then some (.outOfRange s.string) else none

theorem Stamp.splitWhen_text (s : Stamp) :
    Text.splitWhen Timestamp.isSeparator s.text = [s.hours, s.minutes, s.seconds, s.millis] := by
  have hpart (digits : List Char) (hdigits : ∀ c ∈ digits, Text.isDecimalDigit c = true) :
      ∀ c ∈ digits, Timestamp.isSeparator c = false := fun c hc =>
    Timestamp.not_isSeparator_of_isDecimalDigit c (hdigits c hc)
  have hmark : Timestamp.isSeparator s.mark = true := by
    rcases s.mark_eq with hmark | hmark
    · rw [hmark]
      rfl
    · rw [hmark]
      rfl
  exact (Timestamp.splitWhen_eq_four_iff _ _ _ _ _).mpr ⟨':', ':', s.mark, rfl, ⟨rfl, rfl, hmark⟩,
    hpart _ s.isDigit_hours, hpart _ s.isDigit_minutes, hpart _ s.isDigit_seconds,
      hpart _ s.isDigit_millis⟩

/-- A part of a stamp has its value, or none at all if one of its digits is not ASCII. In a file
such a digit counts as nothing, so the two readers part here. -/
theorem part_of_isDecimalDigit (p : Timestamp.Part) (digits : List Char)
    (hdigits : ∀ c ∈ digits, Text.isDecimalDigit c = true) (hlength : digits.length ≤ 3) :
    Timestamp.part? p digits =
      if Number.areDigits digits then .ok (partValue digits) else .error (.part p) := by
  cases hascii : Number.areDigits digits with
  | true =>
    have hbound : Number.digitsValue digits < Nat.pow 2 64 := by
      have hlt := Number.digitsValue_lt digits hascii
      have hpow : 10 ^ digits.length ≤ 10 ^ 3 := Nat.pow_le_pow_right (by decide) hlength
      have hroom : 10 ^ 3 ≤ Nat.pow 2 64 := by decide
      omega
    have hvalue : partValue digits = Number.digitsValue digits := by
      rw [partValue, Number.natural?, if_pos hascii, Option.getD_some]
    rw [Timestamp.part?, Number.unsigned_eq_some_of_digits digits hascii hbound, hvalue]
    rfl
  | false =>
    have hnone : Number.unsigned? digits = none := by
      rw [Number.unsigned?.eq_def]
      split
      · have hplus : Text.isDecimalDigit '+' = true := hdigits '+' (by simp)
        exact absurd hplus (by decide)
      · simp [Number.naturalBelow?, hascii]
    rw [Timestamp.part?, hnone]
    rfl

/-- The parts of a stamp come to the time it says in a file, or are refused for what is wrong.
What is wrong with it is told as it is looked for: a part without a value before one that is out
of range. -/
theorem Stamp.sum_string (s : Stamp) :
    Timestamp.sum s.string = s.fault?.elim (.ok s.time) .error := by
  have htrimmed : Text.IsTrimmed s.text :=
    ⟨by simpa using s.not_isBlank_head [], by simpa using s.not_isBlank_last []⟩
  have hmillis : ¬ 1000 ≤ partValue s.millis := by
    have hlt := partValue_lt s.millis
    rw [s.length_millis] at hlt
    omega
  have hsum : partValue s.hours * 3600000 + partValue s.minutes * 60000 + partValue s.seconds *
    1000 +
      partValue s.millis = s.time := by
    rw [time]
    omega
  rw [Timestamp.sum, string, String.toList_ofList, Text.trim_of_isTrimmed _ htrimmed,
    s.splitWhen_text]
  simp only [part_of_isDecimalDigit .hours _ s.isDigit_hours
    (by rcases s.length_hours with h | h <;> omega),
      part_of_isDecimalDigit .minutes _ s.isDigit_minutes (by simp [s.length_minutes]),
    part_of_isDecimalDigit .seconds _ s.isDigit_seconds (by simp [s.length_seconds]),
    part_of_isDecimalDigit .milliseconds _ s.isDigit_millis (by simp [s.length_millis])]
  -- The parts are read in order, and the first one without a value is the fault.
  cases hhours : Number.areDigits s.hours with
  | false => simp [fault?, parts, hhours, bind, Except.bind]
  | true =>
    cases hminutes : Number.areDigits s.minutes with
    | false => simp [fault?, parts, hhours, hminutes, bind, Except.bind]
    | true =>
      cases hseconds : Number.areDigits s.seconds with
      | false => simp [fault?, parts, hhours, hminutes, hseconds, bind, Except.bind]
      | true =>
        cases hdigits : Number.areDigits s.millis with
        | false => simp [fault?, parts, hhours, hminutes, hseconds, hdigits, bind, Except.bind]
        | true =>
          have hfault : s.fault? = if 60 ≤ partValue s.minutes ∨ 60 ≤ partValue s.seconds then
              some (.outOfRange s.string) else none := by
            simp [fault?, parts, hhours, hminutes, hseconds, hdigits]
          simp only [if_true, bind, Except.bind, hsum, hmillis, decide_false, Bool.or_false,
            Bool.or_eq_true, decide_eq_true_eq, hfault]
          split
          · rfl
          · rfl

/-- A stamp on its own is the time it says in a file, or refused for what is wrong with it. Two
digits for the hours never overflow. -/
theorem Stamp.parse_string (s : Stamp) :
    Timestamp.parse s.string = s.fault?.elim (.ok s.time) .error := by
  have hfits : s.time < Nat.pow 2 64 := lt_word_of_le _ (Nat.le_add_right_of_le s.time_le)
  rw [Timestamp.parse, s.sum_string]
  cases s.fault? with
  | none => exact if_pos hfits
  | some why => rfl

/-- A timing stands somewhere in a line. -/
def HasTiming (line : List Char) : Prop := ∃ timing : Timing, timing.text <:+: line

theorem findTiming_eq_none_iff (line : List Char) : findTiming line = none ↔ ¬ HasTiming line := by
  induction line with
  | nil => simp [findTiming, HasTiming, Timing.text]
  | cons c rest ih =>
    simp only [findTiming, Option.orElse_eq_orElse, Option.orElse_eq_or, Option.or_eq_none_iff,
      takeTiming_eq_none_iff, ih, HasTiming, List.infix_cons_iff, not_exists, not_or]
    constructor
    · rintro ⟨hhere, hlater⟩ timing
      refine ⟨?_, hlater timing⟩
      rintro ⟨back, hback⟩
      exact hhere timing back hback.symm
    · intro h
      refine ⟨fun timing back hback => ?_, fun timing => (h timing).2⟩
      exact (h timing).1 ⟨back, hback.symm⟩

theorem isSome_findTiming_iff (line : List Char) :
    (findTiming line).isSome = true ↔ HasTiming line := by
  rw [← not_iff_not, ← findTiming_eq_none_iff, Bool.not_eq_true, Option.isSome_eq_false_iff,
    Option.isNone_iff_eq_none]

instance : DecidablePred HasTiming := fun line => decidable_of_iff _ (isSome_findTiming_iff line)

/-- A timing begins in a line, and none begins earlier. -/
def Timing.IsFirstIn (timing : Timing) (line : List Char) : Prop :=
  ∃ front back, line = front ++ (timing.text ++ back) ∧
    ∀ (earlier : List Char) (other : Timing) (rest : List Char),
      line = earlier ++ (other.text ++ rest) → front.length ≤ earlier.length

theorem Timing.IsFirstIn.findTiming_eq {timing : Timing} {line : List Char}
    (h : timing.IsFirstIn line) :
    findTiming line = some timing.times := by
  obtain ⟨front, back, hline, hfirst⟩ := h
  exact (findTiming_eq_some_iff line timing.times).mpr ⟨front, timing, back, hline, rfl, hfirst⟩

theorem exists_isFirstIn (line : List Char) (h : HasTiming line) :
    ∃ timing : Timing, timing.IsFirstIn line := by
  obtain ⟨times, hfound⟩ := Option.isSome_iff_exists.mp ((isSome_findTiming_iff line).mpr h)
  obtain ⟨front, timing, back, hline, -, hfirst⟩ := (findTiming_eq_some_iff line times).mp hfound
  exact ⟨timing, front, back, hline, hfirst⟩

/-- A run of lines has the first timing of the first of its lines that has any. -/
def IsTimedBy (run : List (List Char)) (timing : Timing) : Prop :=
  ∃ before line after, run = before ++ line :: after ∧ (∀ other ∈ before, ¬ HasTiming other) ∧
    timing.IsFirstIn line

theorem exists_isTimedBy (run : List (List Char)) (h : ∃ line ∈ run, HasTiming line) :
    ∃ timing, IsTimedBy run timing := by
  induction run with
  | nil => simp at h
  | cons next rest ih =>
    by_cases hnext : HasTiming next
    · obtain ⟨timing, hfirst⟩ := exists_isFirstIn next hnext
      exact ⟨timing, [], next, rest, rfl, by simp, hfirst⟩
    · obtain ⟨timing, before, line, after, rfl, hbefore, hfirst⟩ := ih (by simpa [hnext] using h)
      exact ⟨timing, next :: before, line, after, rfl, by simpa [hnext] using hbefore, hfirst⟩

/-- The cue of a run has the times that the stamps of its timing say. -/
theorem times_of_cueOf {count : Nat} {run : List (List Char)} {cue : Cue} {timing : Timing}
    (hcue : cueOf? count run = some cue) (h : IsTimedBy run timing) :
    cue.start = timing.start.time ∧ cue.stop = timing.stop.time := by
  obtain ⟨before, line, after, rfl, hbefore, hfirst⟩ := h
  have huntimed : ∀ other ∈ before, (findTiming other).isNone = true := fun other hother =>
    Option.isNone_iff_eq_none.mpr ((findTiming_eq_none_iff other).mpr (hbefore other hother))
  simp only [cueOf?] at hcue
  rw [List.dropWhile_append_of_pos huntimed,
    List.dropWhile_cons_of_neg (by simp [hfirst.findTiming_eq])] at hcue
  simp only [hfirst.findTiming_eq, Option.map_some, Option.some.injEq] at hcue
  exact ⟨hcue ▸ rfl, hcue ▸ rfl⟩

theorem cueOf_eq_none_iff (count : Nat) (run : List (List Char)) :
    cueOf? count run = none ↔ ¬ ∃ line ∈ run, HasTiming line := by
  simp only [cueOf?]
  split
  · rename_i hnil
    rw [List.dropWhile_eq_nil_iff] at hnil
    simp only [true_iff, not_exists, not_and]
    intro line hline
    exact (findTiming_eq_none_iff line).mp (Option.isNone_iff_eq_none.mp (hnil line hline))
  · rename_i line after hcons
    have hmem : line ∈ run := (List.dropWhile_sublist _).mem (by rw [hcons]; simp)
    have hfirst := List.head?_dropWhile_not (fun line => (findTiming line).isNone) run
    rw [hcons] at hfirst
    have htimed : (findTiming line).isSome = true := Option.isNone_eq_false_iff.mp hfirst
    simp only [Option.map_eq_none_iff, Option.isSome_iff_ne_none.mp htimed, false_iff, not_not]
    exact ⟨line, hmem, (isSome_findTiming_iff line).mp htimed⟩

theorem hasTiming_of_cueOf {count : Nat} {run : List (List Char)} {cue : Cue}
    (h : cueOf? count run = some cue) : ∃ line ∈ run, HasTiming line := by
  by_contra huntimed
  rw [(cueOf_eq_none_iff count run).mpr huntimed] at h
  cases h

def timedRuns (cs : List Char) : List (List (List Char)) :=
  (runs ((Text.lines (dropMarks cs)).map Text.trim)).filter fun run => ∃ line ∈ run, HasTiming line

/-- Each run with a timing makes a cue, and no other run does. -/
theorem forall₂_cuesFrom (count : Nat) (runs : List (List (List Char))) :
    List.Forall₂ (fun run cue => ∃ n, cueOf? n run = some cue)
      (runs.filter fun run => ∃ line ∈ run, HasTiming line) (cuesFrom count runs) := by
  induction runs generalizing count with
  | nil => exact .nil
  | cons run rest ih =>
    rw [cuesFrom]
    cases hcue : cueOf? count run with
    | none =>
      have huntimed := (cueOf_eq_none_iff count run).mp hcue
      rw [List.filter_cons_of_neg (by simpa using huntimed)]
      exact ih _
    | some cue =>
      rw [List.filter_cons_of_pos (by simpa using hasTiming_of_cueOf hcue)]
      exact .cons ⟨count, hcue⟩ (ih _)

/-- A stamp counts as a time in a file, and on its own it is read as that time or refused for its
fault. -/
structure Stamp.CountsAs (s : Stamp) (time : Nat) : Prop where
  time_eq : time = s.time
  parse_eq : Timestamp.parse s.string = s.fault?.elim (.ok time) .error

/-- The cues of a file are those of its runs with a timing, one for each and in order, and each
has the times that the two stamps of its timing say. On its own a stamp is read as just that
time, unless it has a fault: then it is refused on its own, but not in a file. -/
theorem timed_runs_are_cues (cs : List Char) :
    List.Forall₂ (fun run cue => (∃ timing, IsTimedBy run timing) ∧ ∀ timing, IsTimedBy run timing →
      timing.start.CountsAs cue.start ∧ timing.stop.CountsAs cue.stop) (timedRuns cs)
        (parse cs) := by
  rw [parse_eq_cuesFrom, timedRuns]
  refine List.Forall₂.imp ?_ (forall₂_cuesFrom 0 _)
  rintro run cue ⟨count, hcue⟩
  refine ⟨exists_isTimedBy run (hasTiming_of_cueOf hcue), fun timing h => ?_⟩
  obtain ⟨hstart, hstop⟩ := times_of_cueOf hcue h
  exact ⟨⟨hstart, by rw [hstart]; exact timing.start.parse_string⟩,
    ⟨hstop, by rw [hstop]; exact timing.stop.parse_string⟩⟩

/-- Minutes past sixty are refused on their own and carried on in a file. -/
theorem overlong_minutes_make_cue :
    parse "1\n00:61:00,000 --> 00:62:00,000\nHi\n".toList = [⟨1, 3660000, 3720000, "Hi"⟩] ∧
      Timestamp.parse "00:61:00,000" = .error (.outOfRange "00:61:00,000") ∧
      Timestamp.parse "00:62:00,000" = .error (.outOfRange "00:62:00,000") := by
  decide +kernel

end Subtitling.Subtitle.Srt
