import Subtitling.Proofs.Number.Text
import Subtitling.Proofs.Subtitle.Timing

/-!
How late the times of a file can be. A time stamp has two digits for hours, minutes and seconds and
three for milliseconds, and whatever they are, no cue of a file comes near the end of the words that
times are kept in.
-/

namespace Subtitling.Subtitle.Srt

def latestTime : Nat := 362439999

/-- A time that is no more than six seconds later is far from the end of the words. -/
theorem lt_word_of_le (n : Nat) (h : n ≤ latestTime + 6000) : n < Nat.pow 2 64 :=
  Nat.lt_of_le_of_lt h (by decide)

theorem partValue_lt (cs : List Char) : partValue cs < 10 ^ cs.length := by
  simp only [partValue, Number.natural?]
  split
  · rename_i hdigits
    exact Number.digitsValue_lt cs hdigits
  · exact Nat.pow_pos (by decide)

theorem Stamp.hours_lt (s : Stamp) : partValue s.hours < 100 := by
  have hlt := partValue_lt s.hours
  rcases s.length_hours with hlength | hlength
  · rw [hlength] at hlt
    omega
  · rw [hlength] at hlt
    omega

theorem Stamp.time_le (s : Stamp) : s.time ≤ latestTime := by
  have hhours := s.hours_lt
  have hminutes := partValue_lt s.minutes
  have hseconds := partValue_lt s.seconds
  have hmillis := partValue_lt s.millis
  rw [s.length_minutes] at hminutes
  rw [s.length_seconds] at hseconds
  rw [s.length_millis] at hmillis
  simp only [time, latestTime]
  omega

def AreEarly (times : Nat × Nat) : Prop := times.1 ≤ latestTime ∧ times.2 ≤ latestTime

theorem areEarly_of_findTiming (times : Nat × Nat) (line : List Char)
    (h : findTiming line = some times) : AreEarly times := by
  obtain ⟨-, timing, -, -, rfl, -⟩ := (findTiming_eq_some_iff line times).mp h
  exact ⟨timing.start.time_le, timing.stop.time_le⟩

/-- The times of a block, where it has any, are that early. -/
def Block.IsEarly (b : Block) : Prop := ∀ times ∈ b.times, AreEarly times

theorem Block.isEarly_empty : Block.empty.IsEarly := by
  intro times htimes
  cases htimes

theorem Block.isEarly_add (b : Block) (line : List Char) (h : b.IsEarly) :
    (b.add line).IsEarly := by
  simp only [Block.add]
  split
  · exact h
  · split
    · rename_i times hfound
      intro other hother
      obtain rfl := Option.some.inj hother
      exact areEarly_of_findTiming times line hfound
    · split
      · split <;> exact h
      · exact h

theorem Block.areEarly_of_cue (b : Block) (count : Nat) (h : b.IsEarly) (cue : Cue)
    (hcue : b.cue? count = some cue) : AreEarly (cue.start, cue.stop) := by
  simp only [Block.cue?, Option.map_eq_some_iff] at hcue
  obtain ⟨times, htimes, rfl⟩ := hcue
  exact h times htimes

/-- Every cue that is read has the times of stamps, and a stamp is never later than one of nines.
The block that was begun before the lines has to be so early too, which carries the induction. -/
theorem areEarly_of_mem_readLines (lines : List (List Char)) (b : Block) (count : Nat)
    (h : b.IsEarly) (cue : Cue) (hcue : cue ∈ readLines b count lines) :
    AreEarly (cue.start, cue.stop) := by
  induction lines generalizing b count with
  | nil =>
    rw [readLines, Option.mem_toList] at hcue
    exact b.areEarly_of_cue count h cue hcue
  | cons line rest ih =>
    rw [readLines] at hcue
    split at hcue
    · split at hcue
      · rename_i first hfirst
        rcases List.mem_cons.mp hcue with rfl | hlater
        · exact b.areEarly_of_cue count h cue hfirst
        · exact ih Block.empty _ Block.isEarly_empty hlater
      · exact ih Block.empty _ Block.isEarly_empty hcue
    · exact ih (b.add line) count (b.isEarly_add line h) hcue

/-- No cue of a file is later than a stamp of nines. -/
theorem areEarly_of_mem_parse (cs : List Char) (cue : Cue) (h : cue ∈ parse cs) :
    AreEarly (cue.start, cue.stop) :=
  areEarly_of_mem_readLines _ Block.empty 0 Block.isEarly_empty cue h

end Subtitling.Subtitle.Srt
