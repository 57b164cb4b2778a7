import Subtitling.Proofs.Language.Proportion
import Subtitling.Proofs.Text.Lines
import Subtitling.Proofs.Text.LowerCase

/-!
Only what is spoken tells the language. Letters and words are those of the spoken lines, each
taken on its own, so their order is of no account, nor what stands between them: numbers, timing
lines and blank lines. A text said several times over is in the language of the text.
-/

namespace Subtitling.Language

def spokenLines (text : List Char) :
    List (List Char) := ((Text.lines text).map Text.trim).filter isSpoken

/-- A text may as well be cut at its feeds: a return in front of one is blank, and an empty line
behind the last is not spoken. -/
theorem spokenLines_eq (text : List Char) :
    spokenLines text = ((Text.splitWhen (· == '\n') text).map Text.trim).filter isSpoken := by
  rw [spokenLines]
  induction text using Text.feeds_induction with
  | last line hline =>
    rw [Text.splitWhen_of_not_mem '\n' line hline]
    by_cases hsome : line = []
    · rw [hsome]
      rfl
    · rw [Text.lines_of_not_mem line hline hsome]
  | feed line rest hline ih =>
    rw [Text.map_trim_lines_append_cons line rest hline,
      Text.splitWhen_append_cons _ line rest '\n' rfl, Text.splitWhen_of_not_mem '\n' line hline,
        List.singleton_append, List.map_cons, List.filter_cons,
      List.filter_cons, ih]

theorem spokenLines_append_feed (cs rest : List Char) :
    spokenLines (cs ++ '\n' :: rest) = spokenLines cs ++ spokenLines rest := by
  rw [spokenLines_eq, Text.splitWhen_append_cons _ cs rest '\n' rfl, List.map_append,
    List.filter_append, ← spokenLines_eq, ← spokenLines_eq]

/-- A return at the end is one more blank of the last line. -/
theorem spokenLines_concat_return (cs : List Char) :
    spokenLines (cs ++ ['\r']) = spokenLines cs := by
  induction cs using Text.feeds_induction with
  | last line hline =>
    have hfeed : '\n' ∉ line ++ ['\r'] := by simp [hline]
    rw [spokenLines_eq, spokenLines_eq, Text.splitWhen_of_not_mem '\n' line hline,
      Text.splitWhen_of_not_mem '\n' _ hfeed, List.map_singleton, List.map_singleton,
      Text.trim_append_singleton line '\r' rfl]
  | feed line rest hline ih =>
    rw [List.append_assoc, List.cons_append, spokenLines_append_feed, spokenLines_append_feed, ih]

def IsLineBreak (b : List Char) : Prop := b = ['\n'] ∨ b = ['\r', '\n']

theorem spokenLines_append_break (cs rest : List Char) {b : List Char} (hb : IsLineBreak b) :
    spokenLines (cs ++ b ++ rest) = spokenLines cs ++ spokenLines rest := by
  rcases hb with rfl | rfl
  · rw [List.append_assoc, List.singleton_append, spokenLines_append_feed]
  · have hreturn : cs ++ ['\r', '\n'] ++ rest = (cs ++ ['\r']) ++ '\n' :: rest := by simp
    rw [hreturn, spokenLines_append_feed, spokenLines_concat_return]

theorem flatMap_joinLines {β : Type} (f : List Char → List β) (hnil : f [] = [])
    (hfeed : ∀ cs rest, f (cs ++ '\n' :: rest) = f cs ++ f rest) (parts : List (List Char)) :
    f (Text.joinLines parts) = parts.flatMap f := by
  induction parts with
  | nil => exact hnil
  | cons line rest ih =>
    cases rest with
    | nil => rw [Text.joinLines_singleton, List.flatMap_singleton]
    | cons next more =>
      rw [Text.joinLines_cons_cons, hfeed, ih]
      exact List.flatMap_cons.symm

theorem spokenWords_append_feed (cs rest : List Char) :
    spokenWords (cs ++ '\n' :: rest) = spokenWords cs ++ spokenWords rest := by
  have hfeed : (!(Text.isAlphabetic '\n' || '\n' = '\x27')) = true := by decide
  rw [spokenWords, Text.lowerChars_append_feed, Text.splitWhen_append_cons _ _ _ '\n' hfeed,
    List.filter_append, List.map_append, spokenWords, spokenWords]

def lineLetters (line : List Char) : List Char :=
  (Text.replaceTags [' '] line).filter Text.isAlphabetic

def lineWords (line : List Char) : List String := spokenWords (Text.replaceTags [' '] line)

theorem lettersOf_eq (text : List Char) :
    lettersOf text = (spokenLines text).flatMap lineLetters := by
  have hfeed (cs rest : List Char) : (cs ++ '\n' :: rest).filter Text.isAlphabetic =
      cs.filter Text.isAlphabetic ++ rest.filter Text.isAlphabetic := by
    have hblank : Text.isAlphabetic '\n' ≠ true := by decide
    rw [List.filter_append, List.filter_cons_of_neg hblank]
  rw [lettersOf, spokenText, flatMap_joinLines _ rfl hfeed, List.flatMap_map]
  rfl

theorem wordsOf_eq (text : List Char) : wordsOf text = (spokenLines text).flatMap lineWords := by
  rw [wordsOf, spokenText, flatMap_joinLines _ rfl spokenWords_append_feed, List.flatMap_map]
  rfl

/-- A line that says nothing: a blank line, one with only digits, and one with an arrow. -/
inductive IsSilent (line : List Char) : Prop
  | blank (h : ∀ c ∈ line, Text.isBlank c = true)
  | number (h : ∀ c ∈ line, c.isDigit = true)
  | timing (h : arrow <:+: line)

theorem holdsRun_iff (run cs : List Char) : holdsRun run cs = true ↔ run <:+: cs := by
  induction cs with
  | nil => rw [holdsRun, List.isEmpty_iff, List.infix_nil]
  | cons c rest ih =>
    rw [holdsRun, Bool.or_eq_true, List.isPrefixOf_iff_prefix, ih, List.infix_cons_iff]

/-- A run whose first character is nowhere in the front lies behind it. -/
theorem infix_of_infix_append {first : Char} {more front rest : List Char}
    (h : first :: more <:+: front ++ rest) (hfirst : first ∉ front) : first :: more <:+: rest := by
  induction front with
  | nil => exact h
  | cons c others ih =>
    rw [List.mem_cons, not_or] at hfirst
    rcases List.infix_cons_iff.mp h with hprefix | hlater
    · exact absurd (List.cons_prefix_cons.mp hprefix).1 hfirst.1
    · exact ih hlater hfirst.2

theorem arrow_infix_trim {line : List Char} (h : arrow <:+: line) : arrow <:+: Text.trim line := by
  obtain ⟨front, back, hline, hfront, hback⟩ := Text.exists_append_trim_append line
  have hopening : '-' ∉ front := fun hmem => absurd (hfront '-' hmem) (by decide)
  have hclosing : '>' ∉ back.reverse :=
    fun hmem => absurd (hback '>' (List.mem_reverse.mp hmem)) (by decide)
  rw [hline, List.append_assoc] at h
  have hback := List.reverse_infix.mpr (infix_of_infix_append h hopening)
  rw [List.reverse_append] at hback
  exact List.reverse_infix.mp (infix_of_infix_append hback hclosing)

theorem isSpoken_trim_of_isSilent {line : List Char} (h : IsSilent line) :
    isSpoken (Text.trim line) = false := by
  cases h with
  | blank hblank =>
    have hnone : Text.trim line = [] := Text.trim_append_blanks [] line hblank
    rw [hnone]
    rfl
  | number hdigits =>
    have hall : (Text.trim line).all Char.isDigit = true :=
      List.all_eq_true.mpr fun c hc => hdigits c (Text.mem_of_mem_trim line c hc)
    rw [isSpoken, hall, Bool.not_true, Bool.and_false]
  | timing harrow =>
    rw [isSpoken, (holdsRun_iff arrow _).mpr (arrow_infix_trim harrow), Bool.not_true,
      Bool.and_false, Bool.false_and]

/-- Lines in another order, with silent lines put in or taken out, and with other blanks around a
line. -/
inductive Retold : List (List Char) → List (List Char) → Prop
  | reorder {ls ms} (h : ls.Perm ms) : Retold ls ms
  | insert (front back) {line} (h : IsSilent line) : Retold (front ++ back) (front ++ line :: back)
  | remove (front back) {line} (h : IsSilent line) : Retold (front ++ line :: back) (front ++ back)
  | space (front back) {line line'} (h : Text.trim line = Text.trim line') :
      Retold (front ++ line :: back) (front ++ line' :: back)
  | trans {ls ms ns} (h : Retold ls ms) (h' : Retold ms ns) : Retold ls ns

theorem filter_insert_silent (front back : List (List Char)) {line : List Char}
    (h : IsSilent line) :
    ((front ++ line :: back).map Text.trim).filter isSpoken =
      ((front ++ back).map Text.trim).filter isSpoken := by
  have hsilent : ¬ isSpoken (Text.trim line) = true :=
    Bool.eq_false_iff.mp (isSpoken_trim_of_isSilent h)
  rw [List.map_append, List.map_cons, List.filter_append, List.filter_cons_of_neg hsilent,
    List.map_append, List.filter_append]

/-- The same is spoken, if in another order. -/
theorem Retold.perm {ls ms : List (List Char)} (h : Retold ls ms) :
    ((ls.map Text.trim).filter isSpoken).Perm ((ms.map Text.trim).filter isSpoken) := by
  induction h with
  | reorder hperm => exact (hperm.map _).filter _
  | insert front back hline => rw [filter_insert_silent front back hline]
  | remove front back hline => rw [filter_insert_silent front back hline]
  | space front back hline =>
    rw [List.map_append, List.map_append, List.map_cons, List.map_cons, hline]
  | trans _ _ ih ih' => exact ih.trans ih'

/-- Copies of a text with something between each and the next. -/
def copies (text : List Char) : List (List Char) → List Char
  | [] => text
  | b :: rest => text ++ b ++ copies text rest

/-- What there is in spoken lines is there as many times as there are copies. -/
theorem isMultiple_copies {β : Type} (f : List Char → List β) (text : List Char)
    (breaks : List (List Char)) (h : ∀ b ∈ breaks, IsLineBreak b) :
    IsMultiple (breaks.length + 1) ((spokenLines text).flatMap f)
      ((spokenLines (copies text breaks)).flatMap f) := by
  induction breaks with
  | nil => exact isMultiple_of_perm (List.Perm.refl _)
  | cons b rest ih =>
    have hrest := ih fun b' hb' => h b' (by simp [hb'])
    rw [copies, spokenLines_append_break _ _ (h b (by simp)), List.flatMap_append]
    exact hrest.append

/-- The language of a text is told by what is spoken: the order of its lines is of no account,
nor are silent lines, and copies of a text are in its language. -/
theorem detectText_of_spoken (d : Detector) (text : List Char) :
    (∀ other, Retold (Text.lines text) (Text.lines other) →
      d.detectText other = d.detectText text) ∧
      ∀ code, d.detectText text = some code → ∀ breaks, (∀ b ∈ breaks, IsLineBreak b) →
        d.detectText (copies text breaks) = some code := by
  have hverdict := verdict_detectIn d .asMet .asMet text
  rw [lettersOf_eq, wordsOf_eq] at hverdict
  constructor
  · intro other hretold
    apply detectIn_of_verdict
    rw [lettersOf_eq, wordsOf_eq]
    exact hverdict.of_perm (hretold.perm.flatMap_right lineLetters)
      (hretold.perm.flatMap_right lineWords)
  · intro code hcode breaks hbreaks
    apply detectIn_of_verdict
    rw [Detector.detectText] at hcode
    rw [hcode] at hverdict
    rw [lettersOf_eq, wordsOf_eq]
    exact hverdict.of_multiple (isMultiple_copies lineLetters text breaks hbreaks)
      (isMultiple_copies lineWords text breaks hbreaks) (Nat.succ_pos _)

/-- Two lines of Ukrainian keep their language in another order, with a number and a timing
between them, and three times over. -/
theorem detectText_of_spoken_ukrainian :
    let text := "Він уже тут.\nЯ знаю!".toList
    let other := "7\r\nЯ знаю!\r\n\r\n00:01 --> 00:02\r\nВін уже тут.".toList
    Retold (Text.lines text) (Text.lines other) ∧ Detector.standard.detectText text = some "uk" ∧
      Detector.standard.detectText other = Detector.standard.detectText text ∧
      Detector.standard.detectText (copies text [['\n'], ['\r', '\n']]) = some "uk" := by
  intro text other
  have hcode : Detector.standard.detectText text = some "uk" := by decide +kernel
  have hretold : Retold (Text.lines text) (Text.lines other) := by
    have hlines : Text.lines text = ["Він уже тут.".toList, "Я знаю!".toList] := by
      decide +kernel
    have hother : Text.lines other =
        ["7".toList, "Я знаю!".toList, [], "00:01 --> 00:02".toList, "Він уже тут.".toList] := by
      decide +kernel
    rw [hlines, hother]
    have hnumber : IsSilent "7".toList := .number (List.all_eq_true.mp rfl)
    have hblank : IsSilent [] := .blank (by simp)
    have htiming : IsSilent "00:01 --> 00:02".toList := .timing ((holdsRun_iff arrow _).mp rfl)
    refine .trans (.reorder (List.Perm.swap _ _ [])) (.trans (.insert [] _ hnumber) ?_)
    exact .trans (.insert ["7".toList, "Я знаю!".toList] _ hblank)
      (.insert ["7".toList, "Я знаю!".toList, []] _ htiming)
  exact ⟨hretold, hcode, (detectText_of_spoken .standard text).1 other hretold,
    (detectText_of_spoken .standard text).2 "uk" hcode _ (by simp [IsLineBreak])⟩

end Subtitling.Language
