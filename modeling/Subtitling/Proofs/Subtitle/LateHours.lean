import Mathlib.Data.List.Infix
import Subtitling.Proofs.Number.Text
import Subtitling.Proofs.Text.Blank
import Subtitling.Proofs.Text.Split
import Subtitling.Subtitle.Cue

/-!
Which texts are read as time stamps, and as which times. A stamp is four numbers between
separators, and all but the hours are held to their range. The time is the sum of the four, as long
as that fits the 64 bits that times are kept in: up to 5124095576030 hours, 25 minutes, 51 seconds
and 615 milliseconds. A later stamp is neither read nor refused, but stops the program.
-/

namespace Subtitling.Subtitle.Timestamp

def total (hours minutes seconds millis : Nat) : Nat :=
  hours * 3600000 + minutes * 60000 + seconds * 1000 + millis

/-- A text is a time stamp of these numbers: each is written in its place, between separators,
with nothing but blanks around them, and all but the hours are in their range. -/
structure HasComponents (text : String) (hours minutes seconds millis : Nat) : Prop where
  written : ∃ (front back h m s ms : List Char) (first second third : Char),
    text.toList = front ++ (h ++ first :: (m ++ second :: (s ++ third :: ms))) ++ back ∧
      (∀ c ∈ front, Text.isBlank c = true) ∧ (∀ c ∈ back, Text.isBlank c = true) ∧
      (isSeparator first = true ∧ isSeparator second = true ∧ isSeparator third = true) ∧
      Number.IsUnsigned h hours ∧ Number.IsUnsigned m minutes ∧ Number.IsUnsigned s seconds ∧
      Number.IsUnsigned ms millis
  minutes_lt : minutes < 60
  seconds_lt : seconds < 60
  millis_lt : millis < 1000

/-- No digit of any script separates. -/
theorem not_isSeparator_of_isDecimalDigit (c : Char) (h : Text.isDecimalDigit c = true) :
    isSeparator c = false := by
  rw [isSeparator, Bool.or_eq_false_iff, Bool.or_eq_false_iff, decide_eq_false_iff_not,
    decide_eq_false_iff_not, decide_eq_false_iff_not]
  have hne (mark : Char) (hmark : Text.isDecimalDigit mark = false) : c ≠ mark := by
    rintro rfl
    exact Bool.false_ne_true (hmark.symm.trans h)
  exact ⟨⟨hne _ (by decide), hne _ (by decide)⟩, hne _ (by decide)⟩

theorem isDecimalDigit_of_areDigits {digits : List Char} (h : Number.areDigits digits = true) :
    ∀ c ∈ digits, Text.isDecimalDigit c = true := by
  intro c hc
  simp [Text.isDecimalDigit, ((Number.areDigits_iff digits).mp h).2 c hc]

theorem not_isSeparator_of_areDigits {digits : List Char} (h : Number.areDigits digits = true) :
    ∀ c ∈ digits, isSeparator c = false := fun c hc =>
  not_isSeparator_of_isDecimalDigit c (isDecimalDigit_of_areDigits h c hc)

theorem not_isSeparator_of_isUnsigned {cs : List Char} {n : Nat} (h : Number.IsUnsigned cs n) :
    ∀ c ∈ cs, isSeparator c = false := by
  cases h with
  | plain hd _ => exact not_isSeparator_of_areDigits hd
  | plus hd _ => exact List.forall_mem_cons.mpr ⟨by decide, not_isSeparator_of_areDigits hd⟩

/-- Numbers in ASCII digits have no blanks at their ends. -/
theorem isBlank_of_isUnsigned {cs : List Char} {n : Nat} (h : Number.IsUnsigned cs n) :
    cs ≠ [] ∧ ∀ c ∈ cs, Text.isBlank c = false := by
  have hdigits (digits : List Char) (hd : Number.areDigits digits = true) :
      ∀ c ∈ digits, Text.isBlank c = false := fun c hc =>
    Text.not_isBlank_of_isDecimalDigit c (isDecimalDigit_of_areDigits hd c hc)
  cases h with
  | plain hd _ => exact ⟨((Number.areDigits_iff cs).mp hd).1, hdigits cs hd⟩
  | plus hd _ => exact ⟨by simp, List.forall_mem_cons.mpr ⟨by decide, hdigits _ hd⟩⟩

/-- What is trimmed off a text with four components is what stands around them. -/
theorem trim_components {front back h m s ms : List Char} {first second third : Char}
    {hours millis : Nat} (hfront : ∀ c ∈ front, Text.isBlank c = true)
    (hback : ∀ c ∈ back, Text.isBlank c = true) (hhours : Number.IsUnsigned h hours)
    (hmillis : Number.IsUnsigned ms millis) :
    Text.trim (front ++ (h ++ first :: (m ++ second :: (s ++ third :: ms))) ++ back) =
      h ++ first :: (m ++ second :: (s ++ third :: ms)) := by
  obtain ⟨hne, hhead⟩ := isBlank_of_isUnsigned hhours
  obtain ⟨hmore, hlast⟩ := isBlank_of_isUnsigned hmillis
  rw [Text.trim_append_blanks _ _ hback, Text.trim_blanks_append _ _ hfront]
  refine Text.trim_of_isTrimmed _ ⟨fun c hc => ?_, fun c hc => ?_⟩
  · rw [List.head?_append_of_ne_nil _ hne] at hc
    exact hhead c (List.mem_of_mem_head? hc)
  · have hends : (h ++ first :: (m ++ second :: (s ++ third :: ms))).getLast? = ms.getLast? := by
      simp [List.getLast?_append, List.getLast?_cons, List.getLast?_eq_some_getLast hmore]
    rw [hends] at hc
    exact hlast c (List.mem_of_mem_getLast? hc)

/-- Four pieces without separators, and the separators between them. The separators may differ
from each other, so that a text with dots or commas throughout has four pieces as well. -/
theorem splitWhen_eq_four_iff (cs h m s ms : List Char) :
    Text.splitWhen isSeparator cs = [h, m, s, ms] ↔ ∃ first second third,
      cs = h ++ first :: (m ++ second :: (s ++ third :: ms)) ∧
        (isSeparator first = true ∧ isSeparator second = true ∧ isSeparator third = true) ∧
        (∀ c ∈ h, isSeparator c = false) ∧ (∀ c ∈ m, isSeparator c = false) ∧
        (∀ c ∈ s, isSeparator c = false) ∧ ∀ c ∈ ms, isSeparator c = false := by
  constructor
  · intro hsplit
    have hpiece (piece : List Char) (hmem : piece ∈ [h, m, s, ms]) :
      ∀ c ∈ piece, isSeparator c = false :=
      fun c hc => (Text.mem_of_mem_splitWhen _ _ piece (hsplit ▸ hmem) c hc).2
    obtain ⟨first, more, hfirst, rfl, hmore⟩ := Text.exists_append_of_splitWhen _ _ _ _ _ hsplit
    obtain ⟨second, others, hsecond, rfl, hothers⟩ :=
      Text.exists_append_of_splitWhen _ _ _ _ _ hmore
    obtain ⟨third, last, hthird, rfl, hlast⟩ := Text.exists_append_of_splitWhen _ _ _ _ _ hothers
    obtain rfl := Text.eq_of_splitWhen _ _ _ hlast
    exact ⟨first, second, third, rfl, ⟨hfirst, hsecond, hthird⟩, hpiece h (by simp),
      hpiece m (by simp), hpiece s (by simp), hpiece _ (by simp)⟩
  · rintro ⟨first, second, third, rfl, ⟨hfirst, hsecond, hthird⟩, hh, hm, hs, hms⟩
    rw [Text.splitWhen_append_cons _ _ _ _ hfirst, Text.splitWhen_append_cons _ _ _ _ hsecond,
      Text.splitWhen_append_cons _ _ _ _ hthird, Text.splitWhen_of_none _ h hh,
        Text.splitWhen_of_none _ m hm,
      Text.splitWhen_of_none _ s hs, Text.splitWhen_of_none _ ms hms]
    rfl

theorem HasComponents.of_parts {text : String} {hours minutes seconds millis : Nat}
    (h m s ms : List Char)
    (hsplit : Text.splitWhen isSeparator (Text.trim text.toList) = [h, m, s, ms])
    (hh : Number.IsUnsigned h hours) (hm : Number.IsUnsigned m minutes)
    (hs : Number.IsUnsigned s seconds) (hms : Number.IsUnsigned ms millis)
    (hrange : minutes < 60 ∧ seconds < 60 ∧ millis < 1000) :
    HasComponents text hours minutes seconds millis := by
  obtain ⟨first, second, third, htrim, hseparators, -⟩ :=
    (splitWhen_eq_four_iff _ h m s ms).mp hsplit
  obtain ⟨front, back, htext, hfront, hback⟩ := Text.exists_append_trim_append text.toList
  rw [htrim] at htext
  exact ⟨⟨front, back, h, m, s, ms, first, second, third, htext, hfront, hback, hseparators, hh, hm,
    hs, hms⟩, hrange.1, hrange.2.1, hrange.2.2⟩

theorem part_eq_ok_iff (p : Part) (cs : List Char) (n : Nat) :
    part? p cs = .ok n ↔ Number.IsUnsigned cs n := by
  rw [← Number.unsigned_eq_some_iff, part?]
  cases Number.unsigned? cs <;> simp

/-- The four parts of a stamp are read on their own, and then held to their range. Hours have no
range of their own, and their number may be as long as 64 bits allow. -/
theorem sum_of_parts (text : String) (h m s ms : List Char) (time : Nat)
    (hsplit : Text.splitWhen isSeparator (Text.trim text.toList) = [h, m, s, ms]) :
    sum text = .ok time ↔ ∃ hours minutes seconds millis, Number.IsUnsigned h hours ∧
      Number.IsUnsigned m minutes ∧ Number.IsUnsigned s seconds ∧ Number.IsUnsigned ms millis ∧
      (minutes < 60 ∧ seconds < 60 ∧ millis < 1000) ∧
        time = total hours minutes seconds millis := by
  simp only [sum, hsplit, bind, Except.bind, ← part_eq_ok_iff .hours h, ← part_eq_ok_iff .minutes m,
    ← part_eq_ok_iff .seconds s, ← part_eq_ok_iff .milliseconds ms]
  cases part? .hours h with
  | error e => simp
  | ok hours =>
    cases part? .minutes m with
    | error e => simp
    | ok minutes =>
      cases part? .seconds s with
      | error e => simp
      | ok seconds =>
        cases part? .milliseconds ms with
        | error e => simp
        | ok millis =>
          have hrange : (decide (60 ≤ minutes) || decide (60 ≤ seconds) || decide (1000 ≤ millis)) =
              !decide (minutes < 60 ∧ seconds < 60 ∧ millis < 1000) := by
            rw [Bool.eq_iff_iff]
            simp only [Bool.or_eq_true, decide_eq_true_eq, Bool.not_eq_true',
              decide_eq_false_iff_not]
            omega
          simp only [hrange, Except.ok.injEq, exists_and_left, exists_eq_left']
          by_cases hwithin : minutes < 60 ∧ seconds < 60 ∧ millis < 1000
          · simp only [hwithin, decide_true, Bool.not_true, Bool.false_eq_true, if_false, and_true,
              true_and]
            exact ⟨fun h => (Except.ok.inj h).symm, fun h => h ▸ rfl⟩
          · simp only [hwithin, decide_false, Bool.not_false, if_true, false_and]
            exact ⟨(fun h => by cases h), False.elim⟩

/-- The texts whose parts come to a time are those with four components. -/
theorem sum_eq_ok_iff (text : String) (time : Nat) : sum text = .ok time ↔
    ∃ hours minutes seconds millis, HasComponents text hours minutes seconds millis ∧
      time = total hours minutes seconds millis := by
  constructor
  · intro hsum
    have hfour : ∃ h m s ms,
        Text.splitWhen isSeparator (Text.trim text.toList) = [h, m, s, ms] := by
      rw [sum] at hsum
      split at hsum
      · rename_i h m s ms hsplit
        exact ⟨h, m, s, ms, hsplit⟩
      · cases hsum
    obtain ⟨h, m, s, ms, hsplit⟩ := hfour
    obtain ⟨hours, minutes, seconds, millis, hh, hm, hs, hms, hrange, rfl⟩ :=
      (sum_of_parts text h m s ms time hsplit).mp hsum
    exact ⟨hours, minutes, seconds, millis, .of_parts h m s ms hsplit hh hm hs hms hrange, rfl⟩
  · rintro ⟨hours, minutes, seconds, millis, ⟨⟨front, back, h, m, s, ms, first, second, third,
      htext, hfront, hback, hseparators, hh, hm, hs, hms⟩, hminutes, hseconds, hmillis⟩, rfl⟩
    have hsplit : Text.splitWhen isSeparator (Text.trim text.toList) = [h, m, s, ms] := by
      rw [htext, trim_components hfront hback hh hms, splitWhen_eq_four_iff]
      exact ⟨first, second, third, rfl, hseparators, not_isSeparator_of_isUnsigned hh,
        not_isSeparator_of_isUnsigned hm, not_isSeparator_of_isUnsigned hs,
        not_isSeparator_of_isUnsigned hms⟩
    exact (sum_of_parts text h m s ms _ hsplit).mpr
      ⟨hours, minutes, seconds, millis, hh, hm, hs, hms, ⟨hminutes, hseconds, hmillis⟩, rfl⟩

theorem HasComponents.sum_eq {text : String} {hours minutes seconds millis : Nat}
    (h : HasComponents text hours minutes seconds millis) :
    sum text = .ok (total hours minutes seconds millis) :=
  (sum_eq_ok_iff text _).mpr ⟨hours, minutes, seconds, millis, h, rfl⟩

theorem parse_eq_ok_iff (text : String) (time : Nat) :
    parse text = .ok time ↔ sum text = .ok time ∧ time < Nat.pow 2 64 := by
  rw [parse]
  cases sum text with
  | error why => simp
  | ok n =>
    simp only [Except.ok.injEq]
    constructor
    · intro h
      split at h
      · cases h
        exact ⟨rfl, ‹_›⟩
      · cases h
    · rintro ⟨rfl, hfits⟩
      exact if_pos hfits

theorem parse_eq_panic_iff (text : String) :
    parse text = .panic ↔ ∃ n, sum text = .ok n ∧ Nat.pow 2 64 ≤ n := by
  rw [parse]
  cases sum text with
  | error why => simp
  | ok n =>
    simp only [Except.ok.injEq, exists_eq_left']
    split
    · simpa using ‹n < Nat.pow 2 64›
    · simpa using ‹¬ n < Nat.pow 2 64›

theorem HasComponents.parse_eq {text : String} {hours minutes seconds millis : Nat}
    (h : HasComponents text hours minutes seconds millis)
    (hfits : total hours minutes seconds millis < Nat.pow 2 64) :
    parse text = .ok (total hours minutes seconds millis) :=
  (parse_eq_ok_iff text _).mpr ⟨h.sum_eq, hfits⟩

/-- A text is cut at its separators in one way only, and each number is what its digits say. -/
theorem HasComponents.total_eq {text : String} {hours minutes seconds millis n : Nat}
    (h : HasComponents text hours minutes seconds millis) (hsum : sum text = .ok n) :
    total hours minutes seconds millis = n :=
  Except.ok.inj (h.sum_eq.symm.trans hsum)

/-- The texts that are read as a time are those with four components whose sum fits 64 bits, and
the time is that sum. Where the sum is more, the text is not refused: reading it panics, and it does
so for no other text. Every text without four components is refused. -/
theorem parse_is_total_within_word (text : String) :
    ((∃ time, parse text = .ok time) ↔ ∃ hours minutes seconds millis,
      HasComponents text hours minutes seconds millis ∧
        total hours minutes seconds millis < Nat.pow 2 64) ∧
    (parse text = .panic ↔ ∃ hours minutes seconds millis,
      HasComponents text hours minutes seconds millis ∧
        Nat.pow 2 64 ≤ total hours minutes seconds millis) ∧
    ((∃ why, parse text = .error why) ↔ ∀ hours minutes seconds millis,
      ¬ HasComponents text hours minutes seconds millis) ∧
    ∀ hours minutes seconds millis, HasComponents text hours minutes seconds millis →
      ∀ time, parse text = .ok time → time = total hours minutes seconds millis := by
  refine ⟨⟨?_, ?_⟩, ⟨?_, ?_⟩, ⟨?_, ?_⟩, fun hours minutes seconds millis h time hparse => ?_⟩
  · rintro ⟨time, hparse⟩
    obtain ⟨hsum, hfits⟩ := (parse_eq_ok_iff text time).mp hparse
    obtain ⟨hours, minutes, seconds, millis, h, rfl⟩ := (sum_eq_ok_iff text time).mp hsum
    exact ⟨hours, minutes, seconds, millis, h, hfits⟩
  · rintro ⟨hours, minutes, seconds, millis, h, hfits⟩
    exact ⟨_, h.parse_eq hfits⟩
  · intro hparse
    obtain ⟨n, hsum, hlate⟩ := (parse_eq_panic_iff text).mp hparse
    obtain ⟨hours, minutes, seconds, millis, h, rfl⟩ := (sum_eq_ok_iff text n).mp hsum
    exact ⟨hours, minutes, seconds, millis, h, hlate⟩
  · rintro ⟨hours, minutes, seconds, millis, h, hlate⟩
    exact (parse_eq_panic_iff text).mpr ⟨_, h.sum_eq, hlate⟩
  · rintro ⟨why, hparse⟩ hours minutes seconds millis h
    rw [parse, h.sum_eq] at hparse
    dsimp only at hparse
    split at hparse <;> cases hparse
  · intro hnone
    cases hsum : sum text with
    | error why => exact ⟨why, by rw [parse, hsum]⟩
    | ok n =>
      obtain ⟨hours, minutes, seconds, millis, h, -⟩ := (sum_eq_ok_iff text n).mp hsum
      exact absurd h (hnone hours minutes seconds millis)
  · exact (h.total_eq ((parse_eq_ok_iff text time).mp hparse).1).symm

/-- The first full hour past what 64 bits hold. -/
theorem hasComponents_fullHour : HasComponents "5124095576031:00:00,000" 5124095576031 0 0 0 :=
  .of_parts "5124095576031".toList "00".toList "00".toList "000".toList (by decide +kernel)
    ((Number.unsigned_eq_some_iff _ _).mp rfl) ((Number.unsigned_eq_some_iff _ _).mp rfl)
    ((Number.unsigned_eq_some_iff _ _).mp rfl) ((Number.unsigned_eq_some_iff _ _).mp rfl)
      (by decide)

/-- The latest time there is, with blanks around it. -/
theorem parse_is_total_within_word_latest :
    HasComponents " 5124095576030:25:51,615\n" 5124095576030 25 51 615 ∧
      parse " 5124095576030:25:51,615\n" = .ok 18446744073709551615 ∧
      18446744073709551615 = total 5124095576030 25 51 615 := by
  have hcomponents : HasComponents " 5124095576030:25:51,615\n" 5124095576030 25 51 615 :=
    .of_parts "5124095576030".toList "25".toList "51".toList "615".toList (by decide +kernel)
      ((Number.unsigned_eq_some_iff _ _).mp rfl) ((Number.unsigned_eq_some_iff _ _).mp rfl)
      ((Number.unsigned_eq_some_iff _ _).mp rfl) ((Number.unsigned_eq_some_iff _ _).mp rfl)
      (by decide)
  have hparse : parse " 5124095576030:25:51,615\n" = .ok 18446744073709551615 := by
    decide +kernel
  exact ⟨hcomponents, hparse,
    (parse_is_total_within_word _).2.2.2 _ _ _ _ hcomponents _ hparse⟩

/-- The next full hour is 34 minutes later. The text still has its four components, and it is not
refused for its hours, but stops the program. -/
theorem full_hour_panics :
    HasComponents "5124095576031:00:00,000" 5124095576031 0 0 0 ∧
      total 5124095576031 0 0 0 = 18446744073711600000 ∧
      parse "5124095576031:00:00,000" = .panic ∧
      ¬ ∃ why, parse "5124095576031:00:00,000" = .error why := by
  have hpanic : parse "5124095576031:00:00,000" = .panic := by decide +kernel
  refine ⟨hasComponents_fullHour, rfl, hpanic, ?_⟩
  rintro ⟨why, hparse⟩
  rw [hpanic] at hparse
  cases hparse

end Subtitling.Subtitle.Timestamp
