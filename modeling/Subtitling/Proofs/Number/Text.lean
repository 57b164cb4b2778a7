import Mathlib.Algebra.Group.Nat.Defs
import Subtitling.Number.Text

/-!
Reading back what is written. The digits of a number, with any zeros in front, have its value,
and a reader with a bound accepts exactly the digits whose value lies below it. With a sign,
exactly the numerals of the numbers of 64 bits are accepted; so the decimal form of such a number
is read as that number. How many digits there are and what their value is decides which digits
they are.
-/

namespace Subtitling.Number

theorem digitsValue_eq_ofDigitChars (digits : List Char) :
    digitsValue digits = Nat.ofDigitChars 10 digits 0 := by
  simp only [digitsValue, Nat.ofDigitChars, Nat.mul_comm]

theorem digitsValue_toDigits (n : Nat) : digitsValue (Nat.toDigits 10 n) = n := by
  rw [digitsValue_eq_ofDigitChars, Nat.ofDigitChars_ten_toDigits]

/-- Zeros in front do not count. -/
theorem digitsValue_zeros_append (count : Nat) (digits : List Char) :
    digitsValue (List.replicate count '0' ++ digits) = digitsValue digits := by
  induction count with
  | zero => rfl
  | succ count ih => exact ih

theorem areDigits_iff (cs : List Char) :
    areDigits cs = true ↔ cs ≠ [] ∧ ∀ c ∈ cs, c.isDigit = true := by
  simp [areDigits]

theorem isDigit_of_mem_toDigits (n : Nat) (c : Char) (h : c ∈ Nat.toDigits 10 n) :
    c.isDigit = true :=
  Nat.isDigit_of_mem_toDigits (by decide) (by decide) h

theorem areDigits_toDigits (n : Nat) : areDigits (Nat.toDigits 10 n) = true :=
  (areDigits_iff _).mpr ⟨Nat.toDigits_ne_nil, isDigit_of_mem_toDigits n⟩

theorem toNat_of_isDigit {c : Char} (h : c.isDigit = true) : 48 ≤ c.toNat ∧ c.toNat ≤ 57 :=
  Char.isDigit_iff_toNat.mp h

theorem foldl_digits_lt (digits : List Char) (n : Nat) (h : ∀ c ∈ digits, c.isDigit = true) :
    digits.foldl (fun n c => n * 10 + (c.toNat - '0'.toNat)) n < (n + 1) * 10 ^ digits.length := by
  induction digits generalizing n with
  | nil => simp
  | cons c rest ih =>
    have hdigit := h c (by simp)
    have hvalue : c.toNat - '0'.toNat ≤ 9 := Nat.sub_le_sub_right (toNat_of_isDigit hdigit).2 48
    have hrest := ih (n * 10 + (c.toNat - '0'.toNat)) fun d hd => h d (by simp [hd])
    rw [List.foldl_cons, List.length_cons, Nat.pow_succ']
    calc rest.foldl (fun n c => n * 10 + (c.toNat - '0'.toNat)) (n * 10 + (c.toNat - '0'.toNat))
        < (n * 10 + (c.toNat - '0'.toNat) + 1) * 10 ^ rest.length := hrest
      _ ≤ ((n + 1) * 10) * 10 ^ rest.length := Nat.mul_le_mul_right _ (by omega)
      _ = (n + 1) * (10 * 10 ^ rest.length) := Nat.mul_assoc _ _ _

/-- A number of so many digits is below that power of ten. -/
theorem digitsValue_lt (digits : List Char) (h : areDigits digits = true) :
    digitsValue digits < 10 ^ digits.length := by
  have hlt := foldl_digits_lt digits 0 ((areDigits_iff digits).mp h).2
  rwa [Nat.zero_add, Nat.one_mul] at hlt

/-- Counting up to a bound loses nothing below it. -/
theorem foldl_min_eq (bound n : Nat) (digits : List Char) :
    digits.foldl (fun n c => min (n * 10 + (c.toNat - '0'.toNat)) bound) (min n bound) =
      min (digits.foldl (fun n c => n * 10 + (c.toNat - '0'.toNat)) n) bound := by
  induction digits generalizing n with
  | nil => rfl
  | cons c rest ih =>
    have hstep : min (min n bound * 10 + (c.toNat - '0'.toNat)) bound =
        min (n * 10 + (c.toNat - '0'.toNat)) bound := by omega
    rw [List.foldl_cons, List.foldl_cons, hstep, ih]

theorem naturalBelow_eq_some_iff (bound value : Nat) (cs : List Char) :
    naturalBelow? bound cs = some value ↔
      areDigits cs = true ∧ digitsValue cs = value ∧ value < bound := by
  have hfold := foldl_min_eq bound 0 cs
  rw [Nat.zero_min] at hfold
  simp only [naturalBelow?, hfold, digitsValue]
  cases areDigits cs with
  | false => simp
  | true =>
    simp only [if_true, true_and]
    split
    · rw [Option.some.injEq]
      omega
    · simp only [reduceCtorEq, false_iff]
      omega

/-- A number of 64 bits reads back from its digits. -/
theorem unsigned_eq_some_of_digits (cs : List Char) (hdigits : areDigits cs = true)
    (h : digitsValue cs < Nat.pow 2 64) : unsigned? cs = some (digitsValue cs) := by
  have hall := ((areDigits_iff cs).mp hdigits).2
  rw [unsigned?.eq_def]
  split
  · have hplus : '+'.isDigit = true := hall '+' (by simp)
    exact absurd hplus (by decide)
  · exact (naturalBelow_eq_some_iff _ _ cs).mpr ⟨hdigits, rfl, h⟩

theorem unsigned_toDigits (n : Nat) (h : n < Nat.pow 2 64) :
    unsigned? (Nat.toDigits 10 n) = some n := by
  have hread := unsigned_eq_some_of_digits _ (areDigits_toDigits n)
  rw [digitsValue_toDigits] at hread
  exact hread h

/-- How a number of 64 bits without a sign may be written: digits, with a plus in front of them
or none. -/
inductive IsUnsigned : List Char → Nat → Prop
  | plain {digits : List Char} (h : areDigits digits = true)
      (hfits : digitsValue digits < Nat.pow 2 64) : IsUnsigned digits (digitsValue digits)
  | plus {digits : List Char} (h : areDigits digits = true)
      (hfits : digitsValue digits < Nat.pow 2 64) : IsUnsigned ('+' :: digits) (digitsValue digits)

/-- A text is read as a number of 64 bits without a sign if it is one. -/
theorem unsigned_eq_some_iff (cs : List Char) (n : Nat) :
    unsigned? cs = some n ↔ IsUnsigned cs n := by
  constructor
  · intro h
    rw [unsigned?.eq_def] at h
    split at h
    · obtain ⟨hdigits, rfl, hfits⟩ := (naturalBelow_eq_some_iff _ _ _).mp h
      exact .plus hdigits hfits
    · obtain ⟨hdigits, rfl, hfits⟩ := (naturalBelow_eq_some_iff _ _ _).mp h
      exact .plain hdigits hfits
  · intro h
    cases h with
    | plain hdigits hfits => exact unsigned_eq_some_of_digits cs hdigits hfits
    | plus hdigits hfits => exact (naturalBelow_eq_some_iff _ _ _).mpr ⟨hdigits, rfl, hfits⟩

theorem mul_pow_le_foldl_digits (digits : List Char) (n : Nat) :
    n * 10 ^ digits.length ≤ digits.foldl (fun n c => n * 10 + (c.toNat - '0'.toNat)) n := by
  induction digits generalizing n with
  | nil => simp
  | cons c rest ih =>
    rw [List.foldl_cons, List.length_cons, Nat.pow_succ']
    calc n * (10 * 10 ^ rest.length)
        = n * 10 * 10 ^ rest.length := (Nat.mul_assoc _ _ _).symm
      _ ≤ (n * 10 + (c.toNat - '0'.toNat)) * 10 ^ rest.length :=
        Nat.mul_le_mul_right _ (Nat.le_add_right _ _)
      _ ≤ rest.foldl (fun n c => n * 10 + (c.toNat - '0'.toNat)) (n * 10 + (c.toNat - '0'.toNat)) :=
        ih _

theorem le_foldl_digits (digits : List Char) (n : Nat) :
    n ≤ digits.foldl (fun n c => n * 10 + (c.toNat - '0'.toNat)) n :=
  Nat.le_trans (Nat.le_mul_of_pos_right n (Nat.pow_pos (by decide)))
    (mul_pow_le_foldl_digits digits n)

/-- As many digits with the same value are the same digits. The induction goes from the front,
where what was read so far is compared along with the next digit. -/
theorem foldl_digits_inj (digits others : List Char) (n m : Nat)
    (hdigits : ∀ c ∈ digits, c.isDigit = true) (hothers : ∀ c ∈ others, c.isDigit = true)
    (hlength : digits.length = others.length)
    (h : digits.foldl (fun n c => n * 10 + (c.toNat - '0'.toNat)) n =
      others.foldl (fun n c => n * 10 + (c.toNat - '0'.toNat)) m) : n = m ∧ digits = others := by
  induction digits generalizing others n m with
  | nil =>
    obtain rfl := List.length_eq_zero_iff.mp hlength.symm
    exact ⟨h, rfl⟩
  | cons c rest ih =>
    obtain ⟨d, more, rfl⟩ := List.exists_cons_of_length_eq_add_one hlength.symm
    obtain ⟨hc, hrest⟩ := List.forall_mem_cons.mp hdigits
    obtain ⟨hd, hmore⟩ := List.forall_mem_cons.mp hothers
    obtain ⟨hfront, rfl⟩ := ih more _ _ hrest hmore (Nat.succ.inj hlength) h
    have hstep : n * 10 + (c.toNat - 48) = m * 10 + (d.toNat - 48) := hfront
    have hcbounds := toNat_of_isDigit hc
    have hdbounds := toNat_of_isDigit hd
    obtain rfl : c = d := Char.toNat_inj.mp (by omega)
    exact ⟨by omega, rfl⟩

/-- Equally many digits of one value are the same digits. -/
theorem eq_of_digitsValue_eq {digits others : List Char} (hdigits : areDigits digits = true)
    (hothers : areDigits others = true) (hlength : digits.length = others.length)
    (h : digitsValue digits = digitsValue others) : digits = others :=
  (foldl_digits_inj digits others 0 0 ((areDigits_iff digits).mp hdigits).2
    ((areDigits_iff others).mp hothers).2 hlength h).2

/-- Without a zero in front, digits have no value that fewer could have. -/
theorem pow_le_digitsValue {digits : List Char} (hdigits : areDigits digits = true)
    (hhead : digits.head? ≠ some '0') : 10 ^ (digits.length - 1) ≤ digitsValue digits := by
  obtain ⟨hne, hall⟩ := (areDigits_iff digits).mp hdigits
  obtain ⟨c, rest, rfl⟩ := List.exists_cons_of_ne_nil hne
  have hbounds := toNat_of_isDigit (hall c (by simp))
  have hzero : c.toNat ≠ 48 := fun h => hhead (congrArg some (Char.toNat_inj.mp h))
  have hpositive : 1 ≤ 0 * 10 + (c.toNat - 48) := by omega
  rw [digitsValue, List.foldl_cons, List.length_cons, Nat.add_sub_cancel]
  calc 10 ^ rest.length
      = 1 * 10 ^ rest.length := (Nat.one_mul _).symm
    _ ≤ (0 * 10 + (c.toNat - '0'.toNat)) * 10 ^ rest.length := Nat.mul_le_mul_right _ hpositive
    _ ≤ _ := mul_pow_le_foldl_digits rest _

/-- No zero stands in front of other digits. -/
theorem length_le_or_head_ne (n : Nat) :
    ¬ 1 < (Nat.toDigits 10 n).length ∨ (Nat.toDigits 10 n).head? ≠ some '0' := by
  have hhead : ∀ n, 0 < n → (Nat.toDigits 10 n).head? ≠ some '0' := by
    intro n
    induction n using Nat.strongRecOn with
    | ind n ih =>
      intro hpositive
      by_cases h : n < 10
      · have hall : ∀ n < 10, 0 < n → n.digitChar ≠ '0' := by decide
        rw [Nat.toDigits_of_lt_base h]
        simpa using hall n h hpositive
      · have hrest := ih (n / 10) (by omega) (by omega)
        obtain ⟨c, more, hcons⟩ := List.exists_cons_of_ne_nil
          (Nat.toDigits_ne_nil (n := n / 10) (b := 10))
        rw [hcons] at hrest
        rw [Nat.toDigits_of_base_le (by decide) (by omega), hcons]
        exact hrest
  by_cases h : n = 0
  · subst h
    exact .inl (by decide)
  · exact .inr (hhead n (by omega))

def intChars : Int → List Char
  | .ofNat n => Nat.toDigits 10 n
  | .negSucc n => '-' :: Nat.toDigits 10 (n + 1)

theorem exists_cons_intChars (n : Int) :
    ∃ c rest, intChars n = c :: rest ∧ (c = '-' ∨ c.isDigit = true) := by
  cases n with
  | ofNat k =>
    obtain ⟨c, rest, hcons⟩ := List.exists_cons_of_ne_nil (Nat.toDigits_ne_nil (n := k) (b := 10))
    exact ⟨c, rest, hcons, .inr (isDigit_of_mem_toDigits k c (by simp [hcons]))⟩
  | negSucc k => exact ⟨'-', _, rfl, .inl rfl⟩

/-- A decimal whole number: digits with a sign in front of them or none, and what they denote. -/
inductive IsNumeral : List Char → Int → Prop
  | plain {digits : List Char} (h : areDigits digits = true) : IsNumeral digits (digitsValue digits)
  | plus {digits : List Char} (h : areDigits digits = true) :
      IsNumeral ('+' :: digits) (digitsValue digits)
  | minus {digits : List Char} (h : areDigits digits = true) :
      IsNumeral ('-' :: digits) (-digitsValue digits)

theorem not_areDigits_cons (c : Char) (rest : List Char) (h : c.isDigit = false) :
    ¬ areDigits (c :: rest) = true := by
  simp [areDigits, h]

theorem isNumeral_minus_iff (digits : List Char) (n : Int) : IsNumeral ('-' :: digits) n ↔
    areDigits digits = true ∧ -(digitsValue digits : Int) = n := by
  constructor
  · intro h
    cases h with
    | plain hdigits => exact absurd hdigits (not_areDigits_cons '-' digits (by decide))
    | minus hdigits => exact ⟨hdigits, rfl⟩
  · rintro ⟨hdigits, rfl⟩
    exact .minus hdigits

theorem isNumeral_plus_iff (digits : List Char) (n : Int) : IsNumeral ('+' :: digits) n ↔
    areDigits digits = true ∧ (digitsValue digits : Int) = n := by
  constructor
  · intro h
    cases h with
    | plain hdigits => exact absurd hdigits (not_areDigits_cons '+' digits (by decide))
    | plus hdigits => exact ⟨hdigits, rfl⟩
  · rintro ⟨hdigits, rfl⟩
    exact .plus hdigits

theorem isNumeral_plain_iff (cs : List Char) (n : Int) (hminus : ∀ rest, cs ≠ '-' :: rest)
    (hplus : ∀ rest, cs ≠ '+' :: rest) :
    IsNumeral cs n ↔ areDigits cs = true ∧ (digitsValue cs : Int) = n := by
  constructor
  · intro h
    cases h with
    | plain hdigits => exact ⟨hdigits, rfl⟩
    | plus hdigits => exact absurd rfl (hplus _)
    | minus hdigits => exact absurd rfl (hminus _)
  · rintro ⟨hdigits, rfl⟩
    exact .plain hdigits

theorem map_naturalBelow_eq_some_iff (f : Nat → Int) (bound : Nat) (cs : List Char) (n : Int) :
    (naturalBelow? bound cs).map f = some n ↔
      (areDigits cs = true ∧ f (digitsValue cs) = n) ∧ digitsValue cs < bound := by
  simp only [Option.map_eq_some_iff, naturalBelow_eq_some_iff]
  constructor
  · rintro ⟨value, ⟨hdigits, rfl, hbound⟩, rfl⟩
    exact ⟨⟨hdigits, rfl⟩, hbound⟩
  · rintro ⟨⟨hdigits, rfl⟩, hbound⟩
    exact ⟨_, ⟨hdigits, rfl, hbound⟩, rfl⟩

theorem signed_minus (digits : List Char) : signed? ('-' :: digits) =
    (naturalBelow? (Nat.pow 2 63 + 1) digits).map fun n : Nat => -(n : Int) := by
  rw [signed?]
  cases naturalBelow? (Nat.pow 2 63 + 1) digits <;> rfl

/-- A text is read as a number of 64 bits with a sign if it is the numeral of one. Both ends of
the range count, and so does a plus sign in front. -/
theorem signed_eq_some_iff (cs : List Char) (n : Int) : signed? cs = some n ↔
    IsNumeral cs n ∧ -(Nat.pow 2 63 : Int) ≤ n ∧ n < Nat.pow 2 63 := by
  have hpositive : 0 < Nat.pow 2 63 := by decide
  have hsigned := signed?.eq_def cs
  split at hsigned
  · rw [signed_minus, map_naturalBelow_eq_some_iff, isNumeral_minus_iff]
    apply and_congr_right
    rintro ⟨-, rfl⟩
    omega
  · rw [hsigned, map_naturalBelow_eq_some_iff, Int.ofNat_eq_natCast, isNumeral_plus_iff]
    apply and_congr_right
    rintro ⟨-, rfl⟩
    omega
  · rename_i hminus hplus
    rw [hsigned, map_naturalBelow_eq_some_iff, Int.ofNat_eq_natCast,
      isNumeral_plain_iff cs n hminus hplus]
    apply and_congr_right
    rintro ⟨-, rfl⟩
    omega

theorem isNumeral_intChars (n : Int) : IsNumeral (intChars n) n := by
  cases n with
  | ofNat k =>
    have hnumeral := IsNumeral.plain (areDigits_toDigits k)
    rwa [digitsValue_toDigits] at hnumeral
  | negSucc k =>
    have hnumeral := IsNumeral.minus (areDigits_toDigits (k + 1))
    rwa [digitsValue_toDigits] at hnumeral

/-- A number of 64 bits with a sign reads back from its decimal form. -/
theorem signed_intChars (n : Int) (hlow : -(Nat.pow 2 63 : Int) ≤ n) (hhigh : n < Nat.pow 2 63) :
    signed? (intChars n) = some n :=
  (signed_eq_some_iff _ _).mpr ⟨isNumeral_intChars n, hlow, hhigh⟩

end Subtitling.Number
