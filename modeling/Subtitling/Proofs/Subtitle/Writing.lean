import Subtitling.Proofs.Number.Text
import Subtitling.Proofs.Subtitle.Timing

/-!
What is written is a timing. A time below a hundred hours fills the parts of a stamp with as many
digits as they have, and the stamp says that time; two of them with an arrow between make a line in
which a search finds both. A number on a line of its own is no timing.
-/

namespace Subtitling.Subtitle

theorem length_padded (width n : Nat) (hwidth : 0 < width) (h : n < 10 ^ width) :
    (padded width n).length = width := by
  have hdigits : (Nat.toDigits 10 n).length ≤ width :=
    (Nat.length_toDigits_le_iff (by decide) hwidth).mpr h
  simp only [padded, List.length_append, List.length_replicate]
  omega

theorem isDigit_of_mem_padded (width n : Nat) (c : Char) (h : c ∈ padded width n) :
    c.isDigit = true := by
  simp only [padded, List.mem_append, List.mem_replicate] at h
  rcases h with ⟨-, rfl⟩ | hdigit
  · rfl
  · exact Number.isDigit_of_mem_toDigits n c hdigit

theorem digitsValue_padded (width n : Nat) : Number.digitsValue (padded width n) = n := by
  rw [padded, Number.digitsValue_zeros_append, Number.digitsValue_toDigits]

theorem areDigits_padded (width n : Nat) : Number.areDigits (padded width n) = true :=
  (Number.areDigits_iff _).mpr ⟨by simp [padded, Nat.toDigits_ne_nil],
    isDigit_of_mem_padded width n⟩

namespace Srt

theorem isDecimalDigit_of_isDigit (c : Char) (h : c.isDigit = true) :
    Text.isDecimalDigit c = true := by
  simp [Text.isDecimalDigit, h]

theorem isDecimalDigit_of_mem_padded (width n : Nat) (c : Char) (h : c ∈ padded width n) :
    Text.isDecimalDigit c = true :=
  isDecimalDigit_of_isDigit c (isDigit_of_mem_padded width n c h)

theorem partValue_padded (width n : Nat) : partValue (padded width n) = n := by
  rw [partValue, Number.natural?, if_pos (areDigits_padded width n), Option.getD_some,
    digitsValue_padded]

/-- A hundred hours, for which two digits are too few. -/
def hundredHours : Nat := 360000000

def Stamp.ofTime (ms : Nat) (h : ms < hundredHours) : Stamp where
  hours := padded 2 (ms / 3600000)
  minutes := padded 2 (ms % 3600000 / 60000)
  seconds := padded 2 (ms % 60000 / 1000)
  mark := ','
  millis := padded 3 (ms % 1000)
  length_hours := by
    simp only [hundredHours] at h
    exact .inr (length_padded 2 _ (by decide) (by omega))
  length_minutes := length_padded 2 _ (by decide) (by omega)
  length_seconds := length_padded 2 _ (by decide) (by omega)
  length_millis := length_padded 3 _ (by decide) (by omega)
  mark_eq := .inl rfl
  isDigit_hours := isDecimalDigit_of_mem_padded 2 _
  isDigit_minutes := isDecimalDigit_of_mem_padded 2 _
  isDigit_seconds := isDecimalDigit_of_mem_padded 2 _
  isDigit_millis := isDecimalDigit_of_mem_padded 3 _

theorem Stamp.text_ofTime (ms : Nat) (h : ms < hundredHours) :
    (ofTime ms h).text = Timestamp.chars ms := by
  simp [ofTime, text, Timestamp.chars]

theorem Stamp.time_ofTime (ms : Nat) (h : ms < hundredHours) : (ofTime ms h).time = ms := by
  simp only [ofTime, time, partValue_padded]
  omega

/-- The line with the times of a cue, as it is written. -/
def timingLine (c : Cue) : List Char :=
  Timestamp.chars c.start ++ [' ', '-', '-', '>', ' '] ++ Timestamp.chars c.stop

def Timing.ofCue (c : Cue) (hstart : c.start < hundredHours) (hstop : c.stop < hundredHours) :
    Timing where
  start := .ofTime c.start hstart
  before := [' ']
  after := [' ']
  stop := .ofTime c.stop hstop
  isBlank_before := by simp [Text.isBlank]
  isBlank_after := by simp [Text.isBlank]

theorem Timing.text_ofCue (c : Cue) (hstart : c.start < hundredHours)
    (hstop : c.stop < hundredHours) :
    (ofCue c hstart hstop).text = timingLine c := by
  simp [ofCue, text, timingLine, Stamp.text_ofTime]

theorem findTiming_timingLine (c : Cue) (hstart : c.start < hundredHours)
    (hstop : c.stop < hundredHours) : findTiming (timingLine c) = some (c.start, c.stop) := by
  refine (findTiming_eq_some_iff _ _).mpr ⟨[], .ofCue c hstart hstop, [], ?_, ?_, ?_⟩
  · rw [List.nil_append, List.append_nil, Timing.text_ofCue]
  · simp [Timing.times, Timing.ofCue, Stamp.time_ofTime]
  · exact fun _ _ _ _ => Nat.zero_le _

/-- A timing has colons, and a line without any has none. -/
theorem findTiming_eq_none (line : List Char) (h : ':' ∉ line) : findTiming line = none := by
  rw [Option.eq_none_iff_forall_ne_some]
  intro times hfound
  obtain ⟨front, timing, back, rfl, -⟩ := (findTiming_eq_some_iff line times).mp hfound
  exact h (by simp [Timing.text, Stamp.text])

theorem findTiming_toDigits (n : Nat) : findTiming (Nat.toDigits 10 n) = none := by
  apply findTiming_eq_none
  intro hcolon
  have hdigit : ':'.isDigit = true := Number.isDigit_of_mem_toDigits n ':' hcolon
  exact absurd hdigit (by decide)

/-- A stamp is written in digits, colons and a comma. -/
theorem of_mem_chars (ms : Nat) (c : Char) (h : c ∈ Timestamp.chars ms) :
    c.isDigit = true ∨ c = ':' ∨ c = ',' := by
  have hpadded (width n : Nat) (hc : c ∈ padded width n) : c.isDigit = true :=
    isDigit_of_mem_padded width n c hc
  simp only [Timestamp.chars, List.mem_append, List.mem_cons] at h
  rcases h with ((hc | rfl | hc) | rfl | hc) | rfl | hc
  · exact .inl (hpadded _ _ hc)
  · exact .inr (.inl rfl)
  · exact .inl (hpadded _ _ hc)
  · exact .inr (.inl rfl)
  · exact .inl (hpadded _ _ hc)
  · exact .inr (.inr rfl)
  · exact .inl (hpadded _ _ hc)

theorem not_mem_chars (ms : Nat) (c : Char) (hdigit : c.isDigit = false) (hcolon : c ≠ ':')
    (hcomma : c ≠ ',') : c ∉ Timestamp.chars ms := by
  intro h
  rcases of_mem_chars ms c h with hc | hc | hc
  · rw [hdigit] at hc
    cases hc
  · exact hcolon hc
  · exact hcomma hc

theorem not_isBlank_of_mem_chars (ms : Nat) (c : Char) (h : c ∈ Timestamp.chars ms) :
    Text.isBlank c = false := by
  rcases of_mem_chars ms c h with hc | rfl | rfl
  · exact Text.not_isBlank_of_isDecimalDigit c (isDecimalDigit_of_isDigit c hc)
  · decide
  · decide

theorem chars_ne_nil (ms : Nat) : Timestamp.chars ms ≠ [] := by
  simp [Timestamp.chars]

/-- Neither end of a line with times is blank. -/
theorem isTrimmed_timingLine (c : Cue) : Text.IsTrimmed (timingLine c) := by
  obtain ⟨first, more, hfirst⟩ := List.exists_cons_of_ne_nil (chars_ne_nil c.start)
  obtain ⟨others, last, hlast⟩ : ∃ others last, Timestamp.chars c.stop = others ++ [last] :=
    ⟨_, _, (List.dropLast_concat_getLast (chars_ne_nil c.stop)).symm⟩
  constructor
  · intro d hd
    obtain rfl : first = d := by simpa [timingLine, hfirst] using hd
    exact not_isBlank_of_mem_chars c.start first (by simp [hfirst])
  · intro d hd
    rw [timingLine, hlast, ← List.append_assoc, List.getLast?_concat] at hd
    obtain rfl := Option.some.inj hd
    exact not_isBlank_of_mem_chars c.stop last (by simp [hlast])

end Srt

end Subtitling.Subtitle
