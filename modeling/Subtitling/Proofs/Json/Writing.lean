import Mathlib.Data.List.Basic
import Subtitling.Json.Printer
import Subtitling.Proofs.Json.Reading
import Subtitling.Text.Utf16

/-!
Strings of JSON written and read. Writers differ in which characters they write by their codes,
and in the blanks behind commas and colons; a reader is indifferent to all of that.
-/

namespace Subtitling.Json

structure Style where
  /-- What stands behind a comma. -/
  comma : List Char
  /-- What stands behind a colon. -/
  colon : List Char
  /-- Which characters are written by their codes though they need not be. -/
  coded : Char → Bool
  isSpace_comma : ∀ c ∈ comma, isSpace c = true
  isSpace_colon : ∀ c ∈ colon, isSpace c = true

/-- No blanks, and codes only where there is no other way. -/
def Style.compact : Style := ⟨[], [], fun _ => false, nofun, nofun⟩

def unitChars (unit : Nat) : List Char := '\\' :: 'u' :: Text.hexPadded 4 unit

def Style.char (style : Style) (c : Char) : List Char :=
  if style.coded c then (Text.Utf16.charUnits c).flatMap unitChars else escapeChar c

def Style.string (style : Style) (s : String) : List Char :=
  '"' :: (s.toList.flatMap style.char ++ ['"'])

/-- Units at the front of a string, and what is read behind them. -/
def Prepends (front : List Char) (units : List Nat) : Prop :=
  ∀ rest, readString (front ++ rest) =
    (readString rest).map fun (others, rest) => (units ++ others, rest)

theorem Prepends.append (front back : List Char) (units others : List Nat)
    (hfront : Prepends front units) (hback : Prepends back others) :
    Prepends (front ++ back) (units ++ others) := by
  intro rest
  rw [List.append_assoc, hfront, hback, Option.map_map]
  congr 1
  funext p
  simp

theorem prepends_unitChars (unit : Nat) (h : unit < 16 ^ 4) : Prepends (unitChars unit) [unit] := by
  intro rest
  have hlength := Text.length_hexPadded 4 unit (by decide) h
  have hcode := Text.hexNumber_hexPadded 4 unit
  obtain ⟨a, b, c, d, hdigits⟩ := List.length_eq_four.mp hlength
  rw [hdigits] at hcode
  rw [unitChars, hdigits]
  refine (readString_unit a b c d rest).trans ?_
  rw [hexUnit_eq, hcode]
  rfl

theorem prepends_slash (e c : Char) (he : e ≠ 'u') (hescape : simpleEscape? e = some c) :
    Prepends ['\\', e] [c.toNat] := by
  intro rest
  refine (readString_slash e rest he).trans ?_
  rw [hescape]
  rfl

/-- However a character is written inside a string, reading it back puts its code in front of
what follows, also where the code has a short escape or is written by its digits. -/
theorem prepends_escapeChar (c : Char) : Prepends (escapeChar c) [c.toNat] := by
  rw [escapeChar]
  split
  · rename_i h
    subst h
    exact prepends_slash '"' '"' (by decide) (by decide)
  split
  · rename_i h
    subst h
    exact prepends_slash '\\' '\\' (by decide) (by decide)
  split
  · rename_i h
    subst h
    exact prepends_slash 'n' '\n' (by decide) (by decide)
  split
  · rename_i h
    subst h
    exact prepends_slash 'r' '\r' (by decide) (by decide)
  split
  · rename_i h
    subst h
    exact prepends_slash 't' '\t' (by decide) (by decide)
  split
  · rename_i h
    subst h
    exact prepends_slash 'b' '\x08' (by decide) (by decide)
  split
  · rename_i h
    subst h
    exact prepends_slash 'f' '\x0c' (by decide) (by decide)
  split
  · rename_i h
    exact prepends_unitChars c.toNat (Nat.lt_trans h (by decide))
  · rename_i hquote hslash _ _ _ _ _ hcontrol
    intro rest
    rw [List.singleton_append, readString_plain c rest hquote hslash, if_neg hcontrol]
    rfl

/-- A character past the first plane is the pair of its halves. The two halves are joined only in
this order, which is the one that they are written in. -/
theorem text_pair (c : Char) (h : 0x10000 ≤ c.toNat) (others : List Nat) :
    text? ((0xd800 + (c.toNat - 0x10000) / 0x400) :: (0xdc00 + (c.toNat - 0x10000) % 0x400) ::
      others) =
      (text? others).map (c :: ·) := by
  have hvalid : c.toNat < 0xd800 ∨ 0xdfff < c.toNat ∧ c.toNat < 0x110000 := c.valid
  let high := 0xd800 + (c.toNat - 0x10000) / 0x400
  let low := 0xdc00 + (c.toNat - 0x10000) % 0x400
  have hnotLow : (0xdc00 ≤ high && high < 0xe000) = false := by
    simp only [Bool.and_eq_false_iff, decide_eq_false_iff_not]
    omega
  have hhigh : (0xd800 ≤ high && high < 0xdc00) = true := by
    simp only [Bool.and_eq_true, decide_eq_true_eq]
    omega
  have hlow : (0xdc00 ≤ low && low < 0xe000) = true := by
    simp only [Bool.and_eq_true, decide_eq_true_eq]
    omega
  have hjoined : 0x10000 + (high - 0xd800) * 0x400 + (low - 0xdc00) = c.toNat := by omega
  change text? (high :: low :: others) = _
  rw [text?.eq_def]
  simp only [hnotLow, hhigh, hlow, hjoined, Bool.false_eq_true, if_false, if_true, Char.ofNat_toNat]
  cases text? others <;> rfl

/-- Every way of writing a character gives units that stand for it. -/
theorem Style.exists_units (style : Style) (c : Char) :
    ∃ units, Prepends (style.char c) units ∧
      ∀ others, text? (units ++ others) = (text? others).map (c :: ·) := by
  have hvalid : c.toNat < 0xd800 ∨ 0xdfff < c.toNat ∧ c.toNat < 0x110000 := c.valid
  rw [Style.char]
  split
  · rw [Text.Utf16.charUnits]
    split
    · rename_i h
      refine ⟨[c.toNat], ?_, text_cons c⟩
      simpa using prepends_unitChars c.toNat (by omega)
    · rename_i h
      refine ⟨[0xd800 + (c.toNat - 0x10000) / 0x400, 0xdc00 + (c.toNat - 0x10000) % 0x400], ?_,
        text_pair c (by omega)⟩
      have hhigh := prepends_unitChars (0xd800 + (c.toNat - 0x10000) / 0x400) (by omega)
      have hlow := prepends_unitChars (0xdc00 + (c.toNat - 0x10000) % 0x400) (by omega)
      simpa using hhigh.append _ _ _ _ hlow
  · exact ⟨[c.toNat], prepends_escapeChar c, text_cons c⟩

/-- A string that was written is read, and stands for itself. -/
theorem Style.readString_string (style : Style) (s : String) (rest : List Char) :
    ∃ units, readString (s.toList.flatMap style.char ++ '"' :: rest) = some (units, rest) ∧
      text? units = some s.toList := by
  induction s.toList with
  | nil => exact ⟨[], readString_quote rest, rfl⟩
  | cons c more ih =>
    obtain ⟨others, hread, htext⟩ := ih
    obtain ⟨units, hprepends, hunits⟩ := style.exists_units c
    refine ⟨units ++ others, ?_, ?_⟩
    · rw [List.flatMap_cons, List.append_assoc, hprepends, hread]
      rfl
    · rw [hunits, htext]
      rfl

end Subtitling.Json
