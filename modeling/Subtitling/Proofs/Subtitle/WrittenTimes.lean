import Subtitling.Proofs.Subtitle.LateHours
import Subtitling.Proofs.Subtitle.Writing

/-!
How times are written. The text of a time has four fields: hours in as many digits as they have,
but two at least, minutes and seconds in two, milliseconds in three, and all but the hours are in
their range. The fields come to the time, and no other text of this form comes to it. So two
times never share a text, and as reading never sums up more than was written, every time of 64
bits is read back, however many digits its hours have.
-/

namespace Subtitling.Subtitle

/-- The digits of an open field: `width` of them at least, and more only if the first one counts. -/
structure IsOpenField (width : Nat) (digits : List Char) : Prop where
  areDigits : Number.areDigits digits = true
  width_le : width ≤ digits.length
  no_surplus : digits.length = width ∨ digits.head? ≠ some '0'

/-- The digits of a fixed field: just `width` of them, for a number below `bound`. -/
structure IsFixedField (width bound : Nat) (digits : List Char) : Prop where
  areDigits : Number.areDigits digits = true
  length_eq : digits.length = width
  value_lt : Number.digitsValue digits < bound

theorem IsFixedField.isOpenField {width bound : Nat} {digits : List Char}
    (h : IsFixedField width bound digits) : IsOpenField width digits :=
  ⟨h.areDigits, Nat.le_of_eq h.length_eq.symm, .inl h.length_eq⟩

theorem isOpenField_padded (width n : Nat) (hwidth : 0 < width) :
    IsOpenField width (padded width n) := by
  have hlength : (padded width n).length =
    width - (Nat.toDigits 10 n).length + (Nat.toDigits 10 n).length := by
    simp [padded]
  refine ⟨areDigits_padded width n, by omega, ?_⟩
  by_cases hfits : (Nat.toDigits 10 n).length ≤ width
  · exact .inl (by omega)
  · have hbare : padded width n = Nat.toDigits 10 n := by
      simp [padded, Nat.sub_eq_zero_of_le (Nat.le_of_not_le hfits)]
    rw [hbare]
    exact .inr ((Number.length_le_or_head_ne n).resolve_left (by omega))

theorem isFixedField_padded (width bound n : Nat) (hwidth : 0 < width) (hbound : bound ≤ 10 ^ width)
    (hn : n < bound) : IsFixedField width bound (padded width n) where
  areDigits := areDigits_padded width n
  length_eq := length_padded width n hwidth (Nat.lt_of_lt_of_le hn hbound)
  value_lt := by rwa [digitsValue_padded]

/-- More digits than another field of the same value has are surplus. -/
theorem IsOpenField.length_le {width : Nat} {digits others : List Char}
    (h : IsOpenField width digits) (hothers : IsOpenField width others)
    (hvalue : Number.digitsValue digits = Number.digitsValue others) :
    digits.length ≤ others.length := by
  by_contra hlonger
  have hwidth := hothers.width_le
  have hlow := Number.pow_le_digitsValue h.areDigits (h.no_surplus.resolve_left (by omega))
  have hhigh := Number.digitsValue_lt others hothers.areDigits
  have hpow : 10 ^ others.length ≤ 10 ^ (digits.length - 1) :=
    Nat.pow_le_pow_right (by decide) (by omega)
  omega

theorem IsOpenField.eq_of_value_eq {width : Nat} {digits others : List Char}
    (h : IsOpenField width digits) (hothers : IsOpenField width others)
    (hvalue : Number.digitsValue digits = Number.digitsValue others) :
    digits = others :=
  Number.eq_of_digitsValue_eq h.areDigits hothers.areDigits
    (Nat.le_antisymm (h.length_le hothers hvalue) (hothers.length_le h hvalue.symm)) hvalue

/-- A number is written with the only digits of a field that have its value. -/
theorem padded_eq_iff (width n : Nat) (digits : List Char) (hwidth : 0 < width) :
    padded width n = digits ↔ IsOpenField width digits ∧ Number.digitsValue digits = n := by
  constructor
  · rintro rfl
    exact ⟨isOpenField_padded width n hwidth, digitsValue_padded width n⟩
  · rintro ⟨hfield, rfl⟩
    exact (isOpenField_padded width _ hwidth).eq_of_value_eq hfield (digitsValue_padded width _)

namespace Timestamp

/-- A text has these four fields, and nothing but the separators between them. -/
structure HasFields (text : String) (hours minutes seconds millis : List Char) : Prop where
  written : text.toList = hours ++ ':' :: (minutes ++ ':' :: (seconds ++ ',' :: millis))
  isOpenField_hours : IsOpenField 2 hours
  isFixedField_minutes : IsFixedField 2 60 minutes
  isFixedField_seconds : IsFixedField 2 60 seconds
  isFixedField_millis : IsFixedField 3 1000 millis

def fieldsTotal (hours minutes seconds millis : List Char) : Nat :=
  total (Number.digitsValue hours) (Number.digitsValue minutes) (Number.digitsValue seconds)
    (Number.digitsValue millis)

section Fields

variable {text : String} {hours minutes seconds millis : List Char}

theorem hasFields_format (ms : Nat) : HasFields (format ms) (padded 2 (ms / 3600000))
    (padded 2 (ms % 3600000 / 60000)) (padded 2 (ms % 60000 / 1000)) (padded 3 (ms % 1000)) where
  written := by simp [format, chars]
  isOpenField_hours := isOpenField_padded 2 _ (by decide)
  isFixedField_minutes := isFixedField_padded 2 60 _ (by decide) (by decide) (by omega)
  isFixedField_seconds := isFixedField_padded 2 60 _ (by decide) (by decide) (by omega)
  isFixedField_millis := isFixedField_padded 3 1000 _ (by decide) (by decide) (by omega)

/-- Quotients and remainders come to the time that was divided. -/
theorem total_parts (ms : Nat) :
    total (ms / 3600000) (ms % 3600000 / 60000) (ms % 60000 / 1000) (ms % 1000) = ms := by
  rw [total]
  omega

theorem HasFields.splitWhen_eq (h : HasFields text hours minutes seconds millis) :
    Text.splitWhen isSeparator text.toList = [hours, minutes, seconds, millis] :=
  (splitWhen_eq_four_iff _ _ _ _ _).mpr ⟨':', ':', ',', h.written, by decide,
    not_isSeparator_of_areDigits h.isOpenField_hours.areDigits,
    not_isSeparator_of_areDigits h.isFixedField_minutes.areDigits,
    not_isSeparator_of_areDigits h.isFixedField_seconds.areDigits,
    not_isSeparator_of_areDigits h.isFixedField_millis.areDigits⟩

/-- Fields in their range are the quotients and remainders of what they come to. -/
theorem HasFields.format_eq (h : HasFields text hours minutes seconds millis) :
    format (fieldsTotal hours minutes seconds millis) = text := by
  have hminutes := h.isFixedField_minutes.value_lt
  have hseconds := h.isFixedField_seconds.value_lt
  have hmillis := h.isFixedField_millis.value_lt
  have hpadded (width value : Nat) (digits : List Char) (hwidth : 0 < width)
      (hfield : IsOpenField width digits) (hvalue : value = Number.digitsValue digits) :
      padded width value = digits := (padded_eq_iff width value digits hwidth).mpr
        ⟨hfield, hvalue.symm⟩
  rw [← String.toList_inj, h.written, (hasFields_format _).written, fieldsTotal, total,
    hpadded 2 _ hours (by decide) h.isOpenField_hours (by omega),
    hpadded 2 _ minutes (by decide) h.isFixedField_minutes.isOpenField (by omega),
    hpadded 2 _ seconds (by decide) h.isFixedField_seconds.isOpenField (by omega),
    hpadded 3 _ millis (by decide) h.isFixedField_millis.isOpenField (by omega)]

/-- The text of a time is the one with fields that come to it. -/
theorem format_eq_iff (ms : Nat) (text : String) : format ms = text ↔
    ∃ hours minutes seconds millis, HasFields text hours minutes seconds millis ∧
      fieldsTotal hours minutes seconds millis = ms := by
  constructor
  · rintro rfl
    refine ⟨_, _, _, _, hasFields_format ms, ?_⟩
    simp only [fieldsTotal, digitsValue_padded, total_parts]
  · rintro ⟨hours, minutes, seconds, millis, h, rfl⟩
    exact h.format_eq

/-- A text is cut at its separators in one way only, so that it comes to one time only. -/
theorem eq_of_format_eq {ms other : Nat} (h : format ms = format other) : ms = other := by
  obtain ⟨hours, minutes, seconds, millis, hfields, rfl⟩ := (format_eq_iff ms _).mp h
  obtain ⟨_, _, _, _, hothers, rfl⟩ := (format_eq_iff other _).mp rfl
  have hcut := hfields.splitWhen_eq.symm.trans hothers.splitWhen_eq
  simp only [List.cons.injEq, and_true] at hcut
  obtain ⟨rfl, rfl, rfl, rfl⟩ := hcut
  rfl

/-- As long as the whole sum fits 64 bits, each field does. -/
theorem HasFields.hasComponents (h : HasFields text hours minutes seconds millis)
    (hfits : fieldsTotal hours minutes seconds millis < Nat.pow 2 64) :
    HasComponents text (Number.digitsValue hours) (Number.digitsValue minutes)
    (Number.digitsValue seconds)
      (Number.digitsValue millis) := by
  rw [fieldsTotal, total] at hfits
  have hhours := Number.IsUnsigned.plain h.isOpenField_hours.areDigits (by omega)
  have hminutes := Number.IsUnsigned.plain h.isFixedField_minutes.areDigits (by omega)
  have hseconds := Number.IsUnsigned.plain h.isFixedField_seconds.areDigits (by omega)
  have hmillis := Number.IsUnsigned.plain h.isFixedField_millis.areDigits (by omega)
  exact
    { written := ⟨[], [], hours, minutes, seconds, millis, ':', ':',
      ',', by simp [h.written], by simp, by simp,
        by decide, hhours, hminutes, hseconds, hmillis⟩
      minutes_lt := h.isFixedField_minutes.value_lt
      seconds_lt := h.isFixedField_seconds.value_lt
      millis_lt := h.isFixedField_millis.value_lt }

theorem HasFields.parse_eq (h : HasFields text hours minutes seconds millis)
    (hfits : fieldsTotal hours minutes seconds millis < Nat.pow 2 64) :
    parse text = .ok (fieldsTotal hours minutes seconds millis) :=
  (h.hasComponents hfits).parse_eq hfits

end Fields

/-- A time of 64 bits is read back from its text, however many hours it has. No other time has
that text, and in it minutes, seconds and milliseconds have their two, two and three digits and
are in their range. -/
theorem format_reads_back (ms : Nat) (h : ms < Nat.pow 2 64) :
    parse (format ms) = .ok ms ∧ (∀ other, format other = format ms ↔ other = ms) ∧
      ∃ hours minutes seconds millis, HasFields (format ms) hours minutes seconds millis ∧
        fieldsTotal hours minutes seconds millis = ms := by
  have hwritten := (format_eq_iff ms (format ms)).mp rfl
  refine ⟨?_, fun other => ⟨eq_of_format_eq, fun hother => hother ▸ rfl⟩, hwritten⟩
  obtain ⟨hours, minutes, seconds, millis, hfields, rfl⟩ := hwritten
  exact hfields.parse_eq h

/-- The last time of 64 bits. -/
theorem format_reads_back_last :
    18446744073709551615 < Nat.pow 2 64 ∧ format 18446744073709551615 = "5124095576030:25:51,615" ∧
      parse "5124095576030:25:51,615" = .ok 18446744073709551615 ∧
      (∀ other, format other = "5124095576030:25:51,615" ↔ other = 18446744073709551615) ∧
      ∃ hours minutes seconds millis, HasFields "5124095576030:25:51,615" hours minutes seconds
        millis ∧
        fieldsTotal hours minutes seconds millis = 18446744073709551615 := by
  have hfits : 18446744073709551615 < Nat.pow 2 64 := by decide
  have hformat : format 18446744073709551615 = "5124095576030:25:51,615" := by decide +kernel
  have hread := format_reads_back 18446744073709551615 hfits
  rw [hformat] at hread
  exact ⟨hfits, hformat, hread⟩

end Timestamp

end Subtitling.Subtitle
