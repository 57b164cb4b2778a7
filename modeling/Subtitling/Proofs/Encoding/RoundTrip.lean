import Subtitling.Encoding.Sniff
import Subtitling.Proofs.Text.Utf16
import Subtitling.Proofs.Text.Utf8

/-!
Texts that are read in the encoding they were written in. A byte-order mark settles it; without
one, UTF-16 is told by the NULs among the high bytes of its units, as long as there are few among
the low ones, and that comes before UTF-8 is thought of.
-/

namespace Subtitling.Encoding

open Text.Utf16 (ByteOrder)

def byteOrderMark : ByteOrder → List UInt8
  | .littleEndian => [0xff, 0xfe]
  | .bigEndian => [0xfe, 0xff]

/-- How many units have a zero high byte. -/
def highNuls (us : List Nat) : Nat := us.countP fun u => u / 256 = 0

def lowNuls (us : List Nat) : Nat := us.countP fun u => u % 256 = 0

theorem ofNat_eq_zero_iff {n : Nat} (h : n < 256) : UInt8.ofNat n = 0 ↔ n = 0 := by
  rw [← UInt8.toNat_inj, UInt8.toNat_ofNat', Nat.mod_eq_of_lt h, UInt8.toNat_zero]

theorem countNuls_pair (a b : UInt8) (rest : List UInt8) : countNuls (a :: b :: rest) =
    ((countNuls rest).1 + (if a = 0 then 1 else 0), (countNuls rest).2 + if b = 0 then 1 else 0) :=
      rfl

theorem highNuls_cons (u : Nat) (us : List Nat) :
    highNuls (u :: us) = highNuls us + if u / 256 = 0 then 1 else 0 := by
  simp only [highNuls, List.countP_cons, decide_eq_true_eq]

theorem lowNuls_cons (u : Nat) (us : List Nat) :
    lowNuls (u :: us) = lowNuls us + if u % 256 = 0 then 1 else 0 := by
  simp only [lowNuls, List.countP_cons, decide_eq_true_eq]

/-- NULs at even places are among the bytes that come first, those at odd places among the
others. -/
theorem countNuls_bytes (o : ByteOrder) (us : List Nat) (h : ∀ u ∈ us, u < 0x10000) :
    countNuls (us.flatMap o.bytes) =
      match o with
      | .littleEndian => (lowNuls us, highNuls us)
      | .bigEndian => (highNuls us, lowNuls us) := by
  induction us with
  | nil => cases o <;> rfl
  | cons u rest ih =>
    have hu : u < 0x10000 := h u (by simp)
    have hhigh := ofNat_eq_zero_iff (n := u / 256) (by omega)
    have hlow := ofNat_eq_zero_iff (n := u % 256) (by omega)
    have hrest := ih fun v hv => h v (by simp [hv])
    cases o with
    | littleEndian =>
      simp only at hrest
      simp only [List.flatMap_cons, ByteOrder.bytes, List.cons_append, List.nil_append,
        countNuls_pair, hrest, hhigh, hlow, highNuls_cons, lowNuls_cons]
    | bigEndian =>
      simp only at hrest
      simp only [List.flatMap_cons, ByteOrder.bytes, List.cons_append, List.nil_append,
        countNuls_pair, hrest, hhigh, hlow, highNuls_cons, lowNuls_cons]

theorem length_flatMap_bytes (o : ByteOrder) (us : List Nat) :
    (us.flatMap o.bytes).length = us.length * 2 := by
  induction us with
  | nil => rfl
  | cons u rest ih =>
    rw [List.flatMap_cons, List.length_append, ih, List.length_cons, Nat.add_mul, Nat.add_comm]
    cases o <;> rfl

/-- UTF-16 is told by the NULs among its high bytes. -/
theorem sniffUtf16_bytes (o : ByteOrder) (us : List Nat) (h : ∀ u ∈ us, u < 0x10000)
    (hlength : 2 ≤ us.length) (hhigh : us.length * 4 ≤ highNuls us * 10)
    (hlow : lowNuls us * 10 < us.length) :
    sniffUtf16 (us.flatMap o.bytes) = some (.utf16 o) := by
  have hbytes := length_flatMap_bytes o us
  have hcount := countNuls_bytes o us h
  have hpairs : us.length * 2 / 2 = us.length := Nat.mul_div_cancel _ (by decide)
  rw [sniffUtf16, hbytes, if_neg (by omega), hpairs, hcount]
  cases o with
  | littleEndian => simp only [hhigh, hlow, decide_true, Bool.and_self, if_true]
  | bigEndian =>
    have hnotLittle : ¬ us.length * 4 ≤ lowNuls us * 10 := by omega
    simp only [hnotLittle, hhigh, hlow, decide_true, decide_false, Bool.and_self, Bool.false_and,
      Bool.false_eq_true, if_false, if_true]

/-- A text is read in its encoding if a mark stands in front of it. UTF-16 needs none where there
are at least two units, four tenths of them with a zero high byte and less than a tenth with a
zero low byte, and the bytes do not begin like a mark. -/
theorem decode_reads_encoded (t : List Char) :
    decode ([0xef, 0xbb, 0xbf] ++ Text.Utf8.encode t) = (t, .utf8) ∧
      (∀ o, decode (byteOrderMark o ++ Text.Utf16.encode o t) = (t, .utf16 o)) ∧
      let us := t.flatMap Text.Utf16.charUnits
      2 ≤ us.length → us.length * 4 ≤ highNuls us * 10 → lowNuls us * 10 < us.length →
        ∀ o, splitMark (Text.Utf16.encode o t) = none →
          decode (Text.Utf16.encode o t) = (t, .utf16 o) := by
  have hutf8 : read .utf8 (Text.Utf8.encode t) = t := Text.Utf8.decode_encode t
  have hutf16 (o : ByteOrder) : read (.utf16 o) (Text.Utf16.encode o t) = t :=
    Text.Utf16.decode_encode o t
  refine ⟨?_, fun o => ?_, ?_⟩
  · exact congrArg (·, utf8) hutf8
  · cases o with
    | littleEndian => exact congrArg (·, utf16 .littleEndian) (hutf16 .littleEndian)
    | bigEndian => exact congrArg (·, utf16 .bigEndian) (hutf16 .bigEndian)
  · intro us hlength hhigh hlow o hmark
    have hsniff : sniff (Text.Utf16.encode o t) = .utf16 o := by
      have hunits := sniffUtf16_bytes o _ (Text.Utf16.small_of_mem_units t) hlength hhigh hlow
      rw [sniff, hmark, Text.Utf16.encode, hunits]
    simp only [decode, hmark, hsniff, hutf16]

/-- A text with a pair of halves whose bytes are also UTF-8. -/
theorem decode_reads_encoded_clerk :
    let t := "hi 💁° ok".toList
    let us := t.flatMap Text.Utf16.charUnits
    us = [0x68, 0x69, 0x20, 0xd83d, 0xdc81, 0xb0, 0x20, 0x6f, 0x6b] ∧
      2 ≤ us.length ∧ us.length * 4 ≤ highNuls us * 10 ∧ lowNuls us * 10 < us.length ∧
      (∀ o, splitMark (Text.Utf16.encode o t) = none) ∧
      Text.Utf8.isValid (Text.Utf16.encode .littleEndian t) = true ∧
      ∀ o, decode (Text.Utf16.encode o t) = (t, .utf16 o) := by
  intro t us
  have hlength : 2 ≤ us.length := by decide
  have hhigh : us.length * 4 ≤ highNuls us * 10 := by decide
  have hlow : lowNuls us * 10 < us.length := by decide
  have hmark (o : ByteOrder) : splitMark (Text.Utf16.encode o t) = none := by cases o <;> decide
  exact ⟨by decide, hlength, hhigh, hlow, hmark, by decide, fun o =>
    (decode_reads_encoded t).2.2 hlength hhigh hlow o (hmark o)⟩

end Subtitling.Encoding
