import Subtitling.Proofs.Text.Utf8

/-!
UTF-8 that ends too early. Up to the last whole character all is read as it was written; the
bytes of a character that the end cuts off are one replacement, however many there are, and break
no rule.
-/

namespace Subtitling.Text.Utf8

section

variable (mark : Char) {p : Pending} {n k : Nat}

theorem scan_tails (rest : List UInt8) (h : p.Awaits n (k + 1)) :
    scan (some p) (tails n (k + 1) ++ rest) = scan none rest := by
  induction k generalizing p with
  | zero =>
    rw [tails, List.cons_append, scan, h.admits, h.advance]
    simp [tails]
  | succ k ih =>
    rw [tails, List.cons_append, scan, h.admits, h.advance]
    simpa using ih (awaits_middle n (k + 1))

theorem decodeFrom_take_tails (h : p.Awaits n (k + 1)) (j : Nat) (hj : j ≤ k) :
    decodeFrom mark (some p) ((tails n (k + 1)).take j) = [mark] := by
  induction j generalizing p k with
  | zero => rfl
  | succ j ih =>
    obtain ⟨k, rfl⟩ : ∃ m, k = m + 1 := ⟨k - 1, by omega⟩
    rw [tails, List.take_succ_cons, decodeFrom, feed, h.admits, h.advance]
    simpa using ih (awaits_middle n (k + 1)) (by omega)

theorem isSome_scan_take_tails (h : p.Awaits n (k + 1)) (j : Nat) (hj : j ≤ k) :
    (scan (some p) ((tails n (k + 1)).take j)).isSome = true := by
  induction j generalizing p k with
  | zero => rfl
  | succ j ih =>
    obtain ⟨k, rfl⟩ : ∃ m, k = m + 1 := ⟨k - 1, by omega⟩
    rw [tails, List.take_succ_cons, scan, h.admits, h.advance]
    simpa using ih (awaits_middle n (k + 1)) (by omega)

theorem length_tails (n k : Nat) : (tails n k).length = k := by
  induction k with
  | zero => rfl
  | succ k ih => rw [tails, List.length_cons, ih]

end

theorem scan_encodeChar (c : Char) (rest : List UInt8) :
    scan none (String.utf8EncodeChar c ++ rest) = scan none rest := by
  rcases encodeChar_cases c with ⟨hone, hbytes⟩ | ⟨first, p, k, hbytes, hopening, hawaits⟩
  · rw [hbytes, List.singleton_append, scan, opening_ascii c hone]
  · rw [hbytes, List.cons_append, scan, hopening]
    exact scan_tails rest hawaits

/-- Some but not all bytes of a character. -/
theorem read_take_encodeChar (mark : Char) (c : Char) (j : Nat) (hpos : 0 < j)
    (hj : j < (String.utf8EncodeChar c).length) :
    decodeFrom mark none ((String.utf8EncodeChar c).take j) = [mark] ∧
      (scan none ((String.utf8EncodeChar c).take j)).isSome = true := by
  obtain ⟨j, rfl⟩ : ∃ m, j = m + 1 := ⟨j - 1, by omega⟩
  rcases encodeChar_cases c with ⟨hone, hbytes⟩ | ⟨first, p, k, hbytes, hopening, hawaits⟩
  · rw [hbytes, List.length_singleton] at hj
    omega
  · rw [hbytes, List.length_cons, length_tails] at hj
    rw [hbytes, List.take_succ_cons, decodeFrom, feed, start, hopening, scan, hopening]
    exact ⟨decodeFrom_take_tails mark hawaits j (by omega),
      isSome_scan_take_tails hawaits j (by omega)⟩

theorem le_toNat_of_mem_tails {n k : Nat} {b : UInt8} (h : b ∈ tails n k) : 128 ≤ b.toNat := by
  induction k with
  | zero => cases h
  | succ k ih =>
    rw [tails, List.mem_cons] at h
    rcases h with rfl | hrest
    · rw [toNat_tail]
      omega
    · exact ih hrest

/-- The byte zero is the character zero and part of no other. -/
theorem eq_of_zero_mem_encodeChar (c : Char) (h : 0 ∈ String.utf8EncodeChar c) : c = '\x00' := by
  rcases encodeChar_cases c with ⟨hone, hbytes⟩ | ⟨first, p, k, hbytes, hopening, -⟩
  · rw [hbytes, List.mem_singleton] at h
    have hscalar : Opening.scalar c = .scalar '\x00' := by
      rw [← opening_ascii c hone, ← h]
      rfl
    exact Opening.scalar.inj hscalar
  · rw [hbytes, List.mem_cons] at h
    rcases h with rfl | hrest
    · cases hopening
    · exact absurd (le_toNat_of_mem_tails hrest) (by decide)

/-- The longest beginning of a text that has room in `n` bytes. -/
structure IsLongestFit (t : List Char) (n : Nat) (whole : List Char) : Prop where
  begins : whole <+: t
  fits : (encode whole).length ≤ n
  longest : ∀ other, other <+: t → (encode other).length ≤ n → other <+: whole

/-- A cut after `n` bytes of a text falls inside a character. -/
def FallsInside (t : List Char) (n : Nat) : Prop :=
  n < (encode t).length ∧ ∀ front, front <+: t → (encode front).length ≠ n

/-- What is read of a text that is cut after `n` bytes. -/
inductive CutOff (t : List Char) (n : Nat) : List Char → Prop
  | between {whole : List Char} (fit : IsLongestFit t n whole) (outside : ¬ FallsInside t n) :
      CutOff t n whole
  | within {whole : List Char} (fit : IsLongestFit t n whole) (inside : FallsInside t n) :
      CutOff t n (whole ++ [replacement])

variable {t : List Char} {n : Nat}

theorem length_encode_cons (c : Char) (rest : List Char) :
    (encode (c :: rest)).length = (String.utf8EncodeChar c).length + (encode rest).length := by
  rw [encode, List.flatMap_cons, List.length_append]
  rfl

theorem length_encodeChar_pos (c : Char) : 0 < (String.utf8EncodeChar c).length := by
  rcases encodeChar_cases c with ⟨-, hbytes⟩ | ⟨first, p, k, hbytes, -⟩
  · rw [hbytes]
    exact Nat.one_pos
  · rw [hbytes]
    exact Nat.succ_pos _

theorem IsLongestFit.cons {rest whole : List Char} (c : Char)
    (h : IsLongestFit rest n whole) :
    IsLongestFit (c :: rest) ((String.utf8EncodeChar c).length + n) (c :: whole) where
  begins := List.cons_prefix_cons.mpr ⟨rfl, h.begins⟩
  fits := by
    rw [length_encode_cons]
    exact Nat.add_le_add_left h.fits _
  longest := by
    intro other hother hfits
    cases other with
    | nil => exact List.nil_prefix
    | cons d more =>
      obtain ⟨rfl, hmore⟩ := List.cons_prefix_cons.mp hother
      rw [length_encode_cons] at hfits
      exact List.cons_prefix_cons.mpr ⟨rfl, h.longest more hmore (by omega)⟩

/-- A cut that takes all of the first character falls inside a character just where the rest of
it does so in the rest of the text. -/
theorem fallsInside_cons_iff (c : Char) (rest : List Char) :
    FallsInside (c :: rest) ((String.utf8EncodeChar c).length + n) ↔ FallsInside rest n := by
  have hpos := length_encodeChar_pos c
  rw [FallsInside, FallsInside, length_encode_cons]
  constructor
  · rintro ⟨hlength, hnone⟩
    refine ⟨by omega, fun front hfront => ?_⟩
    have hcons := hnone (c :: front) (List.cons_prefix_cons.mpr ⟨rfl, hfront⟩)
    rw [length_encode_cons] at hcons
    omega
  · rintro ⟨hlength, hnone⟩
    refine ⟨by omega, fun front hfront => ?_⟩
    cases front with
    | nil =>
      rw [encode, List.flatMap_nil, List.length_nil]
      omega
    | cons d more =>
      obtain ⟨rfl, hmore⟩ := List.cons_prefix_cons.mp hfront
      have hrest := hnone more hmore
      rw [length_encode_cons]
      omega

theorem CutOff.cons {rest cs : List Char} (c : Char) (h : CutOff rest n cs) :
    CutOff (c :: rest) ((String.utf8EncodeChar c).length + n) (c :: cs) := by
  cases h with
  | between fit outside => exact .between (fit.cons c) (mt (fallsInside_cons_iff c rest).mp outside)
  | within fit inside => exact .within (fit.cons c) ((fallsInside_cons_iff c rest).mpr inside)

/-- No character has room. -/
theorem isLongestFit_nil_of_lt {c : Char} (rest : List Char)
    (h : n < (String.utf8EncodeChar c).length) :
    IsLongestFit (c :: rest) n [] where
  begins := List.nil_prefix
  fits := Nat.zero_le n
  longest := by
    intro other hother hfits
    cases other with
    | nil => exact List.nil_prefix
    | cons d more =>
      obtain ⟨rfl, -⟩ := List.cons_prefix_cons.mp hother
      rw [length_encode_cons] at hfits
      omega

theorem fallsInside_of_lt {c : Char} (rest : List Char) (hpos : 0 < n)
    (h : n < (String.utf8EncodeChar c).length) : FallsInside (c :: rest) n := by
  refine ⟨by rw [length_encode_cons]; omega, fun front hfront => ?_⟩
  cases front with
  | nil => exact Nat.ne_of_lt hpos
  | cons d more =>
    obtain ⟨rfl, -⟩ := List.cons_prefix_cons.mp hfront
    rw [length_encode_cons]
    omega

theorem not_fallsInside_zero (t : List Char) : ¬ FallsInside t 0 :=
  fun h => h.2 [] List.nil_prefix rfl

/-- Bytes that end too early are sound, and are read as what is left of the text. By induction on
the text: whole characters are read as they are, and the first one that has no room leaves a
beginning that more bytes could complete. -/
theorem cutOff_decode_take (t : List Char) (n : Nat) :
    CutOff t n (decode ((encode t).take n)) ∧ isSound ((encode t).take n) = true := by
  induction t generalizing n with
  | nil =>
    have hempty : (encode []).take n = [] := List.take_nil
    rw [hempty]
    refine ⟨.between ⟨List.nil_prefix, Nat.zero_le n, fun other hother _ => hother⟩ ?_, rfl⟩
    exact fun h => Nat.not_lt_zero n h.1
  | cons c rest ih =>
    have hbytes : encode (c :: rest) = String.utf8EncodeChar c ++ encode rest := List.flatMap_cons
    rw [hbytes]
    by_cases hroom : (String.utf8EncodeChar c).length ≤ n
    · -- The whole character is there, and the cut is behind it.
      obtain ⟨m, rfl⟩ := Nat.exists_eq_add_of_le hroom
      obtain ⟨hcut, hsound⟩ := ih m
      rw [List.take_length_add_append, decode, decodeWith, decodeFrom_encodeChar, isSound,
        scan_encodeChar]
      exact ⟨hcut.cons c, hsound⟩
    · rw [List.take_append_of_le_length (by omega)]
      by_cases hpos : 0 < n
      · obtain ⟨hread, hscan⟩ := read_take_encodeChar replacement c n hpos (by omega)
        rw [decode, decodeWith, hread, isSound, hscan]
        exact ⟨.within (isLongestFit_nil_of_lt rest (by omega))
          (fallsInside_of_lt rest hpos (by omega)), rfl⟩
      · obtain rfl : n = 0 := by omega
        exact ⟨.between (isLongestFit_nil_of_lt rest (by omega)) (not_fallsInside_zero _), rfl⟩

end Subtitling.Text.Utf8
