import Subtitling.Text.Pieces
import Subtitling.Text.CharacterClass

/-!
Trimming. A text is trimmed if no blank stands at either end; trimming leaves such a text as it is
and makes every text one. No digit of any script is blank.
-/

namespace Subtitling.Text

/-- No blank stands at either end. -/
def IsTrimmed (cs : List Char) : Prop :=
  (∀ c ∈ cs.head?, isBlank c = false) ∧ ∀ c ∈ cs.getLast?, isBlank c = false

instance : DecidablePred IsTrimmed := fun cs =>
  decidable_of_iff ((cs.head?.all fun c => !isBlank c) = true ∧
    (cs.getLast?.all fun c => !isBlank c) = true) (by simp [IsTrimmed, Option.all_eq_true])

theorem dropWhile_isBlank_of_head (cs : List Char) (h : ∀ c ∈ cs.head?, isBlank c = false) :
    cs.dropWhile isBlank = cs := by
  cases cs with
  | nil => rfl
  | cons c rest => exact List.dropWhile_cons_of_neg (by simp [h c rfl])

theorem not_isBlank_head_dropWhile (cs : List Char) :
    ∀ c ∈ (cs.dropWhile isBlank).head?, isBlank c = false := by
  intro c hc
  have hfirst := List.head?_dropWhile_not isBlank cs
  rw [Option.mem_def.mp hc] at hfirst
  exact hfirst

theorem trim_of_isTrimmed (cs : List Char) (h : IsTrimmed cs) : trim cs = cs := by
  have hlast : ∀ c ∈ cs.reverse.head?, isBlank c = false := by
    intro c hc
    rw [List.head?_reverse] at hc
    exact h.2 c hc
  rw [trim, trimLeft, dropWhile_isBlank_of_head cs h.1, trimRight,
    dropWhile_isBlank_of_head cs.reverse hlast, List.reverse_reverse]

theorem isTrimmed_trim (cs : List Char) : IsTrimmed (trim cs) := by
  have hprefix : trim cs <+: trimLeft cs := by
    have hsuffix := List.dropWhile_suffix (l := (trimLeft cs).reverse) isBlank
    simpa [trim, trimRight] using List.reverse_prefix.mpr hsuffix
  constructor
  · intro c hc
    obtain ⟨dropped, hdropped⟩ := hprefix
    apply not_isBlank_head_dropWhile cs c
    rw [← trimLeft, ← hdropped, List.head?_append, Option.mem_def.mp hc]
    rfl
  · intro c hc
    rw [trim, trimRight, List.getLast?_reverse] at hc
    exact not_isBlank_head_dropWhile (trimLeft cs).reverse c hc

theorem trim_append_singleton (cs : List Char) (c : Char) (h : isBlank c = true) :
    trim (cs ++ [c]) = trim cs := by
  rw [trim, trimLeft, List.dropWhile_append]
  split
  · rename_i hblank
    rw [List.isEmpty_iff] at hblank
    simp [trim, trimLeft, hblank, h]
  · simp [trim, trimLeft, trimRight, h]

theorem trim_append_blanks (cs blanks : List Char) (h : ∀ c ∈ blanks, isBlank c = true) :
    trim (cs ++ blanks) = trim cs := by
  induction blanks generalizing cs with
  | nil => rw [List.append_nil]
  | cons c rest ih =>
    rw [List.append_cons, ih _ fun d hd => h d (by simp [hd]),
      trim_append_singleton cs c (h c (by simp))]

theorem trim_blanks_append (blanks cs : List Char) (h : ∀ c ∈ blanks, isBlank c = true) :
    trim (blanks ++ cs) = trim cs := by
  rw [trim, trimLeft, List.dropWhile_append_of_pos h, trim, trimLeft]

/-- What trimming drops are blanks at the two ends. -/
theorem exists_append_trim_append (cs : List Char) : ∃ front back, cs = front ++ trim cs ++ back ∧
    (∀ c ∈ front, isBlank c = true) ∧ ∀ c ∈ back, isBlank c = true := by
  refine ⟨cs.takeWhile isBlank, ((trimLeft cs).reverse.takeWhile isBlank).reverse, ?_, ?_, ?_⟩
  · have hback : trim cs ++ ((trimLeft cs).reverse.takeWhile isBlank).reverse = trimLeft cs := by
      rw [trim, trimRight, ← List.reverse_append, List.takeWhile_append_dropWhile,
        List.reverse_reverse]
    rw [List.append_assoc, hback, trimLeft, List.takeWhile_append_dropWhile]
  · exact fun c hc => List.all_eq_true.mp List.all_takeWhile c hc
  · exact fun c hc => List.all_eq_true.mp List.all_takeWhile c (List.mem_reverse.mp hc)

theorem mem_of_mem_trim (cs : List Char) (c : Char) (h : c ∈ trim cs) : c ∈ cs := by
  rw [trim, trimRight, List.mem_reverse] at h
  have hleft := List.mem_reverse.mp ((List.dropWhile_sublist isBlank).mem h)
  exact (List.dropWhile_sublist isBlank).mem hleft

def blankPoints : List Nat :=
  [9, 10, 11, 12, 13, 0x20, 0x85, 0xa0, 0x1680, 0x2000, 0x2001, 0x2002, 0x2003, 0x2004, 0x2005,
    0x2006, 0x2007, 0x2008, 0x2009, 0x200a, 0x2028, 0x2029, 0x202f, 0x205f, 0x3000]

theorem toNat_mem_blankPoints (c : Char) (h : isBlank c = true) : c.toNat ∈ blankPoints := by
  simp only [isBlank, Bool.or_eq_true, Bool.and_eq_true, decide_eq_true_eq, beq_iff_eq] at h
  simp only [blankPoints, List.mem_cons, List.not_mem_nil, or_false]
  omega

theorem not_isBlank_of_isDecimalDigit (c : Char) (h : isDecimalDigit c = true) :
    isBlank c = false := by
  cases hblank : isBlank c with
  | false => rfl
  | true =>
    have hmem := toNat_mem_blankPoints c hblank
    have hranges : ∀ n ∈ blankPoints, decimalDigitRanges.contains n = false := by decide
    have hascii : ∀ n ∈ blankPoints, ¬ (48 ≤ n ∧ n ≤ 57) := by decide
    simp only [isDecimalDigit, hranges c.toNat hmem, Bool.or_false, Char.isDigit, Bool.and_eq_true,
      decide_eq_true_eq, ge_iff_le, UInt32.le_iff_toNat_le] at h
    exact absurd h (hascii c.toNat hmem)

end Subtitling.Text
