import Mathlib.Algebra.Order.Ring.Rat
import Mathlib.Data.Rat.Cast.Defs
import Mathlib.Tactic.FieldSimp
import Subtitling.Number.Binary

/-!
Binary numbers as rationals. A finite pattern stands for exactly one rational number, and asking
for the whole number that it is gives that number where it is whole and nothing where it is not.
-/

namespace Subtitling.Number

/-- The rational number that is read, if what is read is finite. -/
def Reading.value? : Reading → Option ℚ
  | .finite negative m q => some ((if negative then -1 else 1) * (m * 2 ^ q))
  | .infinite _ => none
  | .notANumber => none

namespace Double

/-- The rational number that a pattern stands for; infinities stand for none. -/
def value? (x : Double) : Option ℚ := x.reading.value?

theorem ratio_den_pos (m : Nat) (q : Int) : 0 < (ratio m q).2 := by
  rw [ratio, scale]
  split
  · exact Nat.one_pos
  · rw [Nat.one_mul]
    exact Nat.pow_pos Nat.two_pos

theorem ratio_eq (m : Nat) (q : Int) : ((ratio m q).1 : ℚ) / (ratio m q).2 = m * 2 ^ q := by
  rw [ratio, scale]
  split
  · rename_i hq
    lift q to Nat using hq
    simp
  · rename_i hq
    obtain ⟨k, rfl⟩ : ∃ k : Nat, q = -k := ⟨(-q).toNat, by omega⟩
    simp [div_eq_mul_inv]

/-- A ratio with a sign is a whole number just where nothing is cut off, and then it is the
quotient. -/
theorem signed_ratio_eq_iff (negative : Bool) (num den : Nat) (hden : 0 < den) (n : Int) :
    (if negative then -1 else 1) * ((num : ℚ) / den) = n ↔
      num % den = 0 ∧ (if negative then -((num / den : Nat) : Int) else (num / den : Nat)) = n := by
  have hne : (den : ℚ) ≠ 0 := Nat.cast_ne_zero.mpr (Nat.ne_of_gt hden)
  constructor
  · intro h
    have hmul : (if negative then -1 else 1) * (num : Int) = n * den := by
      rw [mul_div_assoc', div_eq_iff hne] at h
      exact_mod_cast h
    have hdvd : (den : Int) ∣ num := by
      refine ⟨(if negative then -1 else 1) * n, ?_⟩
      cases negative <;> grind
    have hdvd : den ∣ num := Int.natCast_dvd_natCast.mp hdvd
    obtain ⟨k, rfl⟩ := hdvd
    rw [Nat.mul_mod_right, Nat.mul_div_cancel_left k hden]
    refine ⟨rfl, ?_⟩
    have hden' : (den : Int) ≠ 0 := by omega
    apply mul_right_cancel₀ hden'
    rw [← hmul]
    cases negative <;> push_cast <;> grind
  · rintro ⟨hmod, rfl⟩
    obtain ⟨k, rfl⟩ := Nat.dvd_of_mod_eq_zero hmod
    rw [Nat.mul_div_cancel_left k hden, Nat.cast_mul, mul_div_cancel_left₀ _ hne]
    cases negative <;> simp

/-- The whole number that a number is, is its value. -/
theorem toInt_eq_some_iff (x : Double) (n : Int) : x.toInt? = some n ↔ x.value? = some (n : ℚ) := by
  rw [toInt?, value?]
  cases x.reading with
  | finite negative m q =>
    have hsigned := signed_ratio_eq_iff negative (ratio m q).1 (ratio m q).2 (ratio_den_pos m q) n
    rw [ratio_eq] at hsigned
    rw [Reading.value?, Option.some.injEq, hsigned]
    simp only [wholePart]
    cases hmod : (ratio m q).1 % (ratio m q).2 == 0 with
    | true =>
      rw [beq_iff_eq] at hmod
      simp [hmod]
    | false =>
      rw [beq_eq_false_iff_ne] at hmod
      simp [hmod]
  | infinite negative => simp [Reading.value?]
  | notANumber => simp [Reading.value?]

end Double

end Subtitling.Number
