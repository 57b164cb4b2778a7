import Mathlib.Algebra.Group.Nat.Defs
import Subtitling.Text.Utf8

/-!
UTF-8 read back. The first byte of a character opens a sequence that holds the bits the byte has,
each further byte adds six, and the last one completes the character.
-/

namespace Subtitling.Text.Utf8

/-- A further byte of a character, which holds the lowest six bits of `m`. -/
def tail (m : Nat) : UInt8 := UInt8.ofNat (m % 64 + 128)

/-- The last `k` bytes of the character with the number `n`. -/
def tails (n : Nat) : Nat → List UInt8
  | 0 => []
  | k + 1 => tail (n / 64 ^ k) :: tails n k

/-- A sequence that the last `k` bytes of the character with the number `n` complete. -/
structure Pending.Awaits (p : Pending) (n k : Nat) : Prop where
  bits : p.bits = n / 64 ^ k
  missing : p.missing = k
  low : p.low.toNat ≤ n / 64 ^ (k - 1) % 64 + 128
  high : n / 64 ^ (k - 1) % 64 + 128 ≤ p.high.toNat

theorem toNat_tail (m : Nat) : (tail m).toNat = m % 64 + 128 := by
  rw [tail, UInt8.toNat_ofNat']
  omega

theorem bits_advance (p : Pending) (m : Nat) :
    (p.advance (tail m)).bits = p.bits * 64 + m % 64 := by
  have hbits : p.bits * 64 + (m % 64 + 128 - 128) = p.bits * 64 + m % 64 := by omega
  exact (congrArg (fun b => p.bits * 64 + (b - 128)) (toNat_tail m)).trans hbits

section

variable (mark : Char) {p : Pending} {n k : Nat}

theorem Pending.Awaits.admits (h : p.Awaits n (k + 1)) : p.admits (tail (n / 64 ^ k)) = true := by
  simp only [Pending.admits, Bool.and_eq_true, decide_eq_true_eq, UInt8.le_iff_toNat_le, toNat_tail]
  exact ⟨h.low, h.high⟩

theorem Pending.Awaits.advance (h : p.Awaits n (k + 1)) :
    p.advance (tail (n / 64 ^ k)) = ⟨n / 64 ^ k, k, 0x80, 0xbf⟩ := by
  have hbits : n / 64 ^ (k + 1) * 64 + n / 64 ^ k % 64 = n / 64 ^ k := by
    rw [Nat.pow_succ, ← Nat.div_div_eq_div_mul]
    omega
  have hfields (b : UInt8) : p.advance b = ⟨(p.advance b).bits, p.missing - 1, 0x80, 0xbf⟩ := rfl
  rw [hfields, bits_advance, h.bits, hbits, h.missing, Nat.add_sub_cancel]

/-- A bound says nothing where it is that of every further byte. -/
theorem awaits_of_bounds {low high : UInt8} (bits : Nat) (hbits : bits = n / 64 ^ k)
    (hlow : low = 0x80 ∨ low.toNat ≤ n / 64 ^ (k - 1) % 64 + 128)
    (hhigh : high = 0xbf ∨ n / 64 ^ (k - 1) % 64 + 128 ≤ high.toNat) :
    (⟨bits, k, low, high⟩ : Pending).Awaits n k where
  bits := hbits
  missing := rfl
  low := by
    rcases hlow with rfl | hlow
    · exact Nat.le_add_left 128 _
    · exact hlow
  high := by
    rcases hhigh with rfl | hhigh
    · exact Nat.add_le_add_right (Nat.le_of_lt_succ (Nat.mod_lt _ (by decide : 64 > 0))) 128
    · exact hhigh

theorem awaits_middle (n k : Nat) : (⟨n / 64 ^ k, k, 0x80, 0xbf⟩ : Pending).Awaits n k :=
  awaits_of_bounds _ rfl (.inl rfl) (.inl rfl)

theorem decodeFrom_tails (rest : List UInt8) (h : p.Awaits n (k + 1)) :
    decodeFrom mark (some p) (tails n (k + 1) ++ rest) =
      Char.ofNat n :: decodeFrom mark none rest := by
  induction k generalizing p with
  | zero =>
    rw [tails, List.cons_append, decodeFrom, feed, h.admits, h.advance]
    simp [tails]
  | succ k ih =>
    rw [tails, List.cons_append, decodeFrom, feed, h.admits, h.advance]
    simpa using ih (awaits_middle n (k + 1))

end

section

variable {n : Nat}

theorem tails_one (n : Nat) : tails n 1 = [UInt8.ofNat (n % 64 + 128)] := by
  simp only [tails, tail, pow_zero, Nat.div_one]

theorem tails_two (n : Nat) :
    tails n 2 = [UInt8.ofNat (n / 64 % 64 + 128), UInt8.ofNat (n % 64 + 128)] := by
  rw [tails, tails_one, tail, pow_one]

theorem tails_three (n : Nat) : tails n 3 =
    [UInt8.ofNat (n / 4096 % 64 + 128), UInt8.ofNat (n / 64 % 64 + 128),
      UInt8.ofNat (n % 64 + 128)] := by
  rw [tails, tails_two, tail]
  rfl

theorem exists_opening_two (hlow : 0x80 ≤ n) (hhigh : n < 0x800) :
    ∃ p, opening (UInt8.ofNat (n / 64 % 32 + 192)) = .sequence p ∧ p.Awaits n 1 := by
  have hfirst : (UInt8.ofNat (n / 64 % 32 + 192)).toNat = n / 64 + 192 := by
    rw [UInt8.toNat_ofNat']
    omega
  refine ⟨⟨n / 64 ^ 1, 1, 0x80, 0xbf⟩, ?_, awaits_middle n 1⟩
  simp only [opening, hfirst]
  rw [if_neg (by omega), if_neg (by omega), if_pos (by omega), pow_one, Nat.add_sub_cancel]

theorem exists_opening_three (hlow : 0x800 ≤ n) (hhigh : n < 0x10000)
    (hvalid : n < 0xd800 ∨ 0xdfff < n) :
    ∃ p, opening (UInt8.ofNat (n / 4096 % 16 + 224)) = .sequence p ∧ p.Awaits n 2 := by
  have hfirst : (UInt8.ofNat (n / 4096 % 16 + 224)).toNat = n / 4096 + 224 := by
    rw [UInt8.toNat_ofNat']
    omega
  simp only [opening, hfirst]
  rw [if_neg (by omega), if_neg (by omega), if_neg (by omega)]
  -- Only the bounds that exclude overlong forms and surrogates say something.
  split
  · exact ⟨_, rfl, awaits_of_bounds 0 (by omega) (.inr (by simp; omega)) (.inl rfl)⟩
  · split
    · exact ⟨_, rfl, awaits_of_bounds 0xd (by omega) (.inl rfl) (.inr (by simp; omega))⟩
    · rw [if_pos (by omega), Nat.add_sub_cancel]
      exact ⟨_, rfl, awaits_middle n 2⟩

theorem exists_opening_four (hlow : 0x10000 ≤ n) (hhigh : n < 0x110000) :
    ∃ p, opening (UInt8.ofNat (n / 262144 % 8 + 240)) = .sequence p ∧ p.Awaits n 3 := by
  have hfirst : (UInt8.ofNat (n / 262144 % 8 + 240)).toNat = n / 262144 + 240 := by
    rw [UInt8.toNat_ofNat']
    omega
  simp only [opening, hfirst]
  rw [if_neg (by omega), if_neg (by omega), if_neg (by omega), if_neg (by omega), if_neg (by omega),
    if_neg (by omega)]
  split
  · exact ⟨_, rfl, awaits_of_bounds 0 (by omega) (.inr (by simp; omega)) (.inl rfl)⟩
  · split
    · rw [Nat.add_sub_cancel]
      exact ⟨_, rfl, awaits_middle n 3⟩
    · rw [if_pos (by omega)]
      exact ⟨_, rfl, awaits_of_bounds 4 (by omega) (.inl rfl) (.inr (by simp; omega))⟩

end

/-- A character is one byte below 0x80, or a first byte that opens a sequence and those it
awaits. -/
theorem encodeChar_cases (c : Char) :
    c.toNat < 0x80 ∧ String.utf8EncodeChar c = [UInt8.ofNat c.toNat] ∨
      ∃ first p k, String.utf8EncodeChar c = first :: tails c.toNat (k + 1) ∧
        opening first = .sequence p ∧ p.Awaits c.toNat (k + 1) := by
  have hvalid : c.toNat < 0xd800 ∨ 0xdfff < c.toNat ∧ c.toNat < 0x110000 := c.valid
  have hval : c.val.toNat = c.toNat := rfl
  simp only [String.utf8EncodeChar, hval]
  generalize c.toNat = n at hvalid
  by_cases hone : n ≤ 127
  · exact .inl ⟨by omega, by rw [if_pos hone]⟩
  · rw [if_neg hone]
    refine .inr ?_
    by_cases htwo : n ≤ 2047
    · obtain ⟨p, hopening, hawaits⟩ := exists_opening_two (n := n) (by omega) (by omega)
      exact ⟨_, p, 0, by rw [if_pos htwo, tails_one], hopening, hawaits⟩
    · rw [if_neg htwo]
      by_cases hthree : n ≤ 65535
      · obtain ⟨p, hopening, hawaits⟩ :=
          exists_opening_three (n := n) (by omega) (by omega) (by omega)
        exact ⟨_, p, 1, by rw [if_pos hthree, tails_two], hopening, hawaits⟩
      · obtain ⟨p, hopening, hawaits⟩ := exists_opening_four (n := n) (by omega) (by omega)
        exact ⟨_, p, 2, by rw [if_neg hthree, tails_three], hopening, hawaits⟩

theorem opening_ascii (c : Char) (h : c.toNat < 0x80) :
    opening (UInt8.ofNat c.toNat) = .scalar c := by
  have hfirst : (UInt8.ofNat c.toNat).toNat = c.toNat := by
    rw [UInt8.toNat_ofNat']
    omega
  simp only [opening, hfirst]
  rw [if_pos h, Char.ofNat_toNat]

theorem decodeFrom_encodeChar (mark : Char) (c : Char) (rest : List UInt8) :
    decodeFrom mark none (String.utf8EncodeChar c ++ rest) = c :: decodeFrom mark none rest := by
  rcases encodeChar_cases c with ⟨hone, hbytes⟩ | ⟨first, p, k, hbytes, hopening, hawaits⟩
  · rw [hbytes, List.singleton_append, decodeFrom, feed, start, opening_ascii c hone]
    rfl
  · have hrest := decodeFrom_tails mark rest hawaits
    rw [Char.ofNat_toNat] at hrest
    rw [hbytes, List.cons_append, decodeFrom, feed, start, hopening]
    exact hrest

/-- What a text was written as is read as the text. -/
theorem decode_encode (cs : List Char) : decode (encode cs) = cs := by
  rw [decode, decodeWith, encode]
  induction cs with
  | nil => rfl
  | cons c rest ih => rw [List.flatMap_cons, decodeFrom_encodeChar, ih]

end Subtitling.Text.Utf8
