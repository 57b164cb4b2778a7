import Subtitling.Encoding.Sniff
import Subtitling.Proofs.Text.CutOff
import Subtitling.Source.Scan

/-!
UTF-8 without a mark that is cut off anywhere. It is taken for nothing else: it has no NUL that
could point to UTF-16, does not begin like a mark unless the text does, and what the cut leaves
of a character is no fault. So the sample by which a file's language is told is read as the
beginning of the file.
-/

namespace Subtitling.Encoding

open Text.Utf8 (CutOff encode)

theorem countNuls_of_not_mem (bytes : List UInt8) (h : 0 ∉ bytes) : countNuls bytes = (0, 0) := by
  induction bytes with
  | nil => rfl
  | cons b rest ih =>
    rw [List.mem_cons, not_or] at h
    rw [countNuls, ih h.2, if_neg (Ne.symm h.1)]

/-- Without NULs there is no sign of UTF-16. -/
theorem sniffUtf16_of_not_mem (bytes : List UInt8) (h : 0 ∉ bytes) : sniffUtf16 bytes = none := by
  rw [sniffUtf16]
  split
  · rfl
  · rename_i hlength
    have hpairs : ¬ bytes.length / 2 * 4 ≤ 0 * 10 := by omega
    simp only [countNuls_of_not_mem bytes h, hpairs, decide_false, Bool.false_and,
      Bool.false_eq_true, if_false]

theorem splitMark_cases (bytes : List UInt8) : splitMark bytes = none ∨
    (∃ rest, bytes = 0xef :: 0xbb :: 0xbf :: rest) ∨ ∃ rest, bytes = 0xff :: rest ∨
      bytes = 0xfe :: rest := by
  unfold splitMark
  split
  · exact .inr (.inl ⟨_, rfl⟩)
  · exact .inr (.inr ⟨_, .inl rfl⟩)
  · exact .inr (.inr ⟨_, .inr rfl⟩)
  · exact .inl rfl

theorem decode_mark (rest : List UInt8) :
    Text.Utf8.decode (0xef :: 0xbb :: 0xbf :: rest) = '\ufeff' :: Text.Utf8.decode rest :=
  Text.Utf8.decodeFrom_encodeChar Text.Utf8.replacement '\ufeff' rest

section
variable {t : List Char} (n : Nat)

/-- A text that does not begin with a mark does not look like one that does, however short it is
cut. -/
theorem splitMark_take_encode (hmark : t.head? ≠ some '\ufeff') :
    splitMark ((encode t).take n) = none := by
  obtain ⟨hcut, hsound⟩ := Text.Utf8.cutOff_decode_take t n
  rcases splitMark_cases ((encode t).take n) with hnone | ⟨rest, hbytes⟩ | ⟨rest, hbytes | hbytes⟩
  · exact hnone
  · rw [hbytes, decode_mark] at hcut
    generalize htext : '\ufeff' :: Text.Utf8.decode rest = text at hcut
    -- The mark that was read would be the first character of the text, or what replaces one.
    cases hcut with
    | between fit _ =>
      obtain ⟨more, hmore⟩ := fit.begins
      rw [← htext] at hmore
      exact absurd (congrArg List.head? hmore.symm) hmark
    | @within whole fit _ =>
      obtain ⟨more, hmore⟩ := fit.begins
      cases whole with
      | nil => exact absurd (List.cons.inj htext).1 (by decide)
      | cons c others =>
        obtain ⟨rfl, -⟩ := List.cons.inj htext
        exact absurd (congrArg List.head? hmore.symm) hmark
  · rw [hbytes] at hsound
    cases hsound
  · rw [hbytes] at hsound
    cases hsound

theorem sniff_take_encode (hnul : '\x00' ∉ t) (hmark : t.head? ≠ some '\ufeff') :
    sniff ((encode t).take n) = .utf8 := by
  have hzero : 0 ∉ (encode t).take n := by
    intro hmem
    obtain ⟨c, hc, hbyte⟩ := List.mem_flatMap.mp (List.mem_of_mem_take hmem)
    exact hnul (Text.Utf8.eq_of_zero_mem_encodeChar c hbyte ▸ hc)
  obtain ⟨-, hsound⟩ := Text.Utf8.cutOff_decode_take t n
  rw [sniff, splitMark_take_encode n hmark, sniffUtf16_of_not_mem _ hzero, hsound]
  rfl

end

/-- A text without NULs and without a mark in front is read from its bytes in UTF-8, wherever
these are cut: as far as whole characters go, and with one replacement for a character that the
cut goes through. So a whole file is read without loss, and its language is told by a beginning
of it. -/
theorem decode_take_encode (t : List Char) (hnul : '\x00' ∉ t) (hmark : t.head? ≠ some '\ufeff') :
    (∀ n, ∃ cs, CutOff t n cs ∧ decode ((encode t).take n) = (cs, .utf8)) ∧
      (∀ n, (encode t).length ≤ n → decode ((encode t).take n) = (t, .utf8)) ∧
      ∀ (d : Language.Detector) (tree : Files.Tree) (path : String), tree.read path =
        .ok (encode t) →
        ∃ cs, CutOff t Source.sampleSize cs ∧
          Source.sampleLanguage d tree path = (d.detectText cs).map Text.lower := by
  have hread (n : Nat) : decode ((encode t).take n) =
    (Text.Utf8.decode ((encode t).take n), .utf8) := by
    rw [decode, splitMark_take_encode n hmark]
    simp only [sniff_take_encode n hnul hmark, read]
  refine ⟨fun n => ⟨_, (Text.Utf8.cutOff_decode_take t n).1, hread n⟩, fun n hn => ?_,
    fun d tree path hfile => ⟨_, (Text.Utf8.cutOff_decode_take t Source.sampleSize).1, ?_⟩⟩
  · rw [hread, List.take_of_length_le hn, Text.Utf8.decode_encode]
  · rw [Source.sampleLanguage, hfile]
    simp only [Language.Detector.detect, hread]

/-- A name with an accent at its end, whole and cut inside the two bytes of the accented letter.
-/
theorem decode_take_encode_accent :
    let t := "Zoé".toList
    let tree : Files.Tree := ⟨[(["a.srt"], .file (encode t))]⟩
    '\x00' ∉ t ∧ t.head? ≠ some '\ufeff' ∧ (encode t).length ≤ 4 ∧
      tree.read "a.srt" = .ok (encode t) ∧
      (∃ cs, CutOff t 3 cs ∧ decode ((encode t).take 3) = (cs, .utf8)) ∧
      decode ((encode t).take 3) = ("Zo\ufffd".toList, .utf8) ∧
      decode ((encode t).take 4) = (t, .utf8) ∧
      ∃ cs, CutOff t Source.sampleSize cs ∧
        Source.sampleLanguage .standard tree "a.srt" =
          (Language.Detector.standard.detectText cs).map Text.lower := by
  intro t tree
  have hnul : '\x00' ∉ t := by decide
  have hmark : t.head? ≠ some '\ufeff' := by decide
  have hlength : (encode t).length ≤ 4 := by decide
  have hfile : tree.read "a.srt" = .ok (encode t) := rfl
  obtain ⟨hcut, hwhole, hsample⟩ := decode_take_encode t hnul hmark
  exact ⟨hnul, hmark, hlength, hfile, hcut 3, by decide, hwhole 4 hlength,
    hsample .standard tree "a.srt" hfile⟩

end Subtitling.Encoding
