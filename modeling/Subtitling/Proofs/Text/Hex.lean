import Mathlib.Algebra.Group.Nat.Defs
import Subtitling.Text.Quoted

/-!
Hexadecimal digits read back. The digits of a number have its value, padded or not, and among digits
there is no sign.
-/

namespace Subtitling.Text

/-- The number that hexadecimal digits make, in either case. -/
def hexNumber? (digits : List Char) : Option Nat :=
  digits.foldl (fun n c => do return (← n) * 16 + (← hexValue? c)) (some 0)

theorem hexValue_digitChar (n : Nat) (h : n < 16) : hexValue? n.digitChar = some n := by
  have hall : ∀ n < 16, hexValue? n.digitChar = some n := by decide
  exact hall n h

theorem hexNumber_append_singleton (digits : List Char) (c : Char) :
    hexNumber? (digits ++ [c]) =
      (hexNumber? digits).bind fun n => (hexValue? c).map fun d => n * 16 + d := by
  rw [hexNumber?, List.foldl_append, ← hexNumber?, List.foldl_cons, List.foldl_nil]
  cases hexNumber? digits with
  | none => rfl
  | some n => cases hexValue? c <;> rfl

theorem hexNumber_hexDigits (n : Nat) : hexNumber? (hexDigits n) = some n := by
  induction n using Nat.strongRecOn with
  | ind n ih =>
    rw [hexDigits]
    by_cases h : n < 16
    · rw [Nat.toDigits_of_lt_base h]
      simp [hexNumber?, hexValue_digitChar n h]
    · have hrest := ih (n / 16) (by omega)
      rw [hexDigits] at hrest
      rw [Nat.toDigits_of_base_le (by decide) (by omega), hexNumber_append_singleton, hrest,
        hexValue_digitChar _ (Nat.mod_lt _ (by decide))]
      simp only [Option.bind_some, Option.map_some, Option.some.injEq]
      omega

theorem hexNumber_hexPadded (width n : Nat) : hexNumber? (hexPadded width n) = some n := by
  have hzeros (count : Nat) : hexNumber? (List.replicate count '0' ++ hexDigits n) = some n := by
    induction count with
    | zero => exact hexNumber_hexDigits n
    | succ count ih => exact ih
  exact hzeros _

theorem length_hexPadded (width n : Nat) (hwidth : 0 < width) (h : n < 16 ^ width) :
    (hexPadded width n).length = width := by
  have hdigits : (Nat.toDigits 16 n).length ≤ width :=
    (Nat.length_toDigits_le_iff (by decide) hwidth).mpr h
  simp only [hexPadded, hexDigits, List.length_append, List.length_replicate]
  omega

theorem foldl_hexValue_none (digits : List Char) :
    digits.foldl (fun n c => do return (← n) * 16 + (← hexValue? c))
    (none : Option Nat) = none := by
  induction digits with
  | nil => rfl
  | cons c rest ih => exact ih

/-- Where a value was found, every character is a hexadecimal digit: a single other one spoils
all that comes after it. -/
theorem isSome_of_foldl_hexValue (digits : List Char) (start n : Nat)
    (h : digits.foldl (fun n c => do return (← n) * 16 + (← hexValue? c)) (some start) = some n) :
    ∀ c ∈ digits, (hexValue? c).isSome := by
  induction digits generalizing start with
  | nil => nofun
  | cons c rest ih =>
    rw [List.foldl_cons] at h
    cases hc : hexValue? c with
    | none =>
      simp only [hc, Option.bind_eq_bind, Option.bind_some, Option.bind_none] at h
      cases h.symm.trans (foldl_hexValue_none rest)
    | some d =>
      simp only [hc, Option.bind_eq_bind, Option.bind_some] at h
      intro x hx
      rcases List.mem_cons.mp hx with rfl | hx
      · rw [hc]
        rfl
      · exact ih _ h x hx

/-- No sign stands among hexadecimal digits. -/
theorem hexNumber_plus (digits : List Char) : hexNumber? ('+' :: digits) = none :=
  foldl_hexValue_none digits

end Subtitling.Text
