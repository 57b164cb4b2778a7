import Subtitling.Text.Utf16

/-!
UTF-16 read back. A character is a unit that is no half, or a high half and a low half; units are
read from their bytes in the order that they were written in.
-/

namespace Subtitling.Text.Utf16

theorem unit_bytes {u : Nat} (h : u < 0x10000) :
    (UInt8.ofNat (u % 256)).toNat + 256 * (UInt8.ofNat (u / 256)).toNat = u := by
  rw [UInt8.toNat_ofNat', UInt8.toNat_ofNat']
  omega

section

variable (o : ByteOrder)

theorem units_bytes_append {u : Nat} (h : u < 0x10000) (rest : List UInt8) :
    units o (o.bytes u ++ rest) = (u :: (units o rest).1, (units o rest).2) := by
  have hunit := unit_bytes h
  cases o with
  | littleEndian =>
    simp only [ByteOrder.bytes, List.cons_append, List.nil_append, units, ByteOrder.unit, hunit]
  | bigEndian =>
    rw [Nat.add_comm] at hunit
    simp only [ByteOrder.bytes, List.cons_append, List.nil_append, units, ByteOrder.unit, hunit]

theorem units_bytes (us : List Nat) (h : ∀ u ∈ us, u < 0x10000) :
    units o (us.flatMap o.bytes) = (us, false) := by
  induction us with
  | nil => rfl
  | cons u rest ih =>
    rw [List.flatMap_cons, units_bytes_append o (h u (by simp)), ih fun v hv => h v (by simp [hv])]

end

/-- A character is one unit that is no half, or the two halves of a pair. -/
inductive Units (c : Char) : List Nat → Prop
  | single (small : c.toNat < 0x10000) (high : isHighHalf c.toNat = false)
      (low : isLowHalf c.toNat = false) : Units c [c.toNat]
  | pair {u v : Nat} (small : u < 0x10000 ∧ v < 0x10000) (high : isHighHalf u = true)
      (low : isLowHalf v = true) (joined : joinHalves u v = c) : Units c [u, v]

/-- The units of a character are read back as that character: one that is no surrogate, or two
halves that are joined. -/
theorem units_charUnits (c : Char) : Units c (charUnits c) := by
  have hvalid : c.toNat < 0xd800 ∨ 0xdfff < c.toNat ∧ c.toNat < 0x110000 := c.valid
  rw [charUnits]
  split
  · rename_i hsmall
    apply Units.single hsmall
    · rw [isHighHalf, Bool.and_eq_false_iff, decide_eq_false_iff_not, decide_eq_false_iff_not]
      omega
    · rw [isLowHalf, Bool.and_eq_false_iff, decide_eq_false_iff_not, decide_eq_false_iff_not]
      omega
  · rename_i hlarge
    apply Units.pair ⟨by omega, by omega⟩
    · rw [isHighHalf, Bool.and_eq_true, decide_eq_true_eq, decide_eq_true_eq]
      omega
    · rw [isLowHalf, Bool.and_eq_true, decide_eq_true_eq, decide_eq_true_eq]
      omega
    · have hnumber : 0x10000 + (0xd800 + (c.toNat - 0x10000) / 0x400 - 0xd800) * 0x400 +
          (0xdc00 + (c.toNat - 0x10000) % 0x400 - 0xdc00) = c.toNat := by omega
      rw [joinHalves, hnumber, Char.ofNat_toNat]

theorem Units.small {c : Char} {us : List Nat} (h : Units c us) (u : Nat) (hu : u ∈ us) :
    u < 0x10000 := by
  cases h with
  | single small =>
    obtain rfl := List.mem_singleton.mp hu
    exact small
  | pair small =>
    rcases List.mem_cons.mp hu with rfl | hu
    · exact small.1
    · obtain rfl := List.mem_singleton.mp hu
      exact small.2

theorem decodeUnits_append {c : Char} {us : List Nat} (h : Units c us) (odd : Bool)
    (rest : List Nat) :
    decodeUnits odd (us ++ rest) = c :: decodeUnits odd rest := by
  cases h with
  | single small high low =>
    cases rest with
    | nil => simp [decodeUnits, high, low]
    | cons v more => simp [decodeUnits, high, low]
  | pair small high low joined => simp [decodeUnits, high, low, joined]

theorem decodeUnits_charUnits (cs : List Char) : decodeUnits false (cs.flatMap charUnits) = cs := by
  induction cs with
  | nil => rfl
  | cons c rest ih => rw [List.flatMap_cons, decodeUnits_append (units_charUnits c), ih]

theorem small_of_mem_units (cs : List Char) (u : Nat) (hu : u ∈ cs.flatMap charUnits) :
    u < 0x10000 := by
  obtain ⟨c, -, hc⟩ := List.mem_flatMap.mp hu
  exact (units_charUnits c).small u hc

/-- What a text was written as is read as the text. -/
theorem decode_encode (o : ByteOrder) (cs : List Char) : decode o (encode o cs) = cs := by
  simp only [decode, encode, units_bytes o _ (small_of_mem_units cs), decodeUnits_charUnits]

end Subtitling.Text.Utf16
