import Subtitling.Language.Detection
import Subtitling.Proofs.Language.Tally

/-!
What decides the language of a text. Letters of a script and words of a list are counted in
tallies that may be gone through in any order; the verdict is told without them, by how many
letters a script has and how many words a list has.
-/

namespace Subtitling.Language

def Script.count (s : Script) (letters : List Char) : Nat := letters.countP s.holds

def blocksApart (a b : Nat × Nat) : Bool := a.2 < b.1 || b.2 < a.1

theorem scripts_apart : ∀ s ∈ kana :: scripts, ∀ t ∈ kana :: scripts, s.code ≠ t.code →
    ∀ a ∈ s.blocks, ∀ b ∈ t.blocks, blocksApart a b = true := by
  decide

theorem nodup_script_codes : ((kana :: scripts).map Script.code).Nodup := by
  decide

variable {s t : Script} {c : Char} {letters : List Char}

/-- No character belongs to two scripts. -/
theorem code_eq_of_holds (hs : s ∈ kana :: scripts) (ht : t ∈ kana :: scripts)
    (hsc : s.holds c = true) (htc : t.holds c = true) : s.code = t.code := by
  by_contra hne
  obtain ⟨a, ha, hca⟩ := List.any_eq_true.mp hsc
  obtain ⟨b, hb, hcb⟩ := List.any_eq_true.mp htc
  have hapart := scripts_apart s hs t ht hne a ha b hb
  simp only [blocksApart, Bool.or_eq_true, Bool.and_eq_true, decide_eq_true_eq] at hapart hca hcb
  omega

theorem holds_of_scriptOf? (h : scriptOf? c = some s) : s ∈ kana :: scripts ∧ s.holds c = true := by
  rw [scriptOf?] at h
  exact ⟨List.mem_of_find?_eq_some h, by simpa using List.find?_some h⟩

theorem map_code_scriptOf?_iff (hs : s ∈ kana :: scripts) :
    (scriptOf? c).map Script.code = some s.code ↔ s.holds c = true := by
  constructor
  · intro h
    obtain ⟨t, hfound, hcode⟩ := Option.map_eq_some_iff.mp h
    obtain ⟨ht, htc⟩ := holds_of_scriptOf? hfound
    obtain rfl := List.inj_on_of_nodup_map nodup_script_codes ht hs hcode
    exact htc
  · intro hsc
    cases hfound : scriptOf? c with
    | none => exact absurd hsc (List.find?_eq_none.mp hfound s hs)
    | some t =>
      obtain ⟨ht, htc⟩ := holds_of_scriptOf? hfound
      exact congrArg some (code_eq_of_holds ht hs htc hsc)

theorem count_scriptCodes (hs : s ∈ kana :: scripts) (letters : List Char) :
    (scriptCodes letters).count s.code = s.count letters := by
  rw [List.count, scriptCodes, List.countP_filterMap, Script.count]
  apply List.countP_congr
  intro c _
  rw [← map_code_scriptOf?_iff hs]
  cases (scriptOf? c).map Script.code <;> simp

theorem exists_script_of_mem {code : String} (h : code ∈ scriptCodes letters) :
    ∃ s ∈ kana :: scripts, s.code = code := by
  obtain ⟨c, -, hcode⟩ := List.mem_filterMap.mp h
  obtain ⟨s, hs, rfl⟩ := Option.map_eq_some_iff.mp hcode
  exact ⟨s, (holds_of_scriptOf? hs).1, rfl⟩

/-- No other script than kana has more letters, and those that have as many come later by their
codes. -/
structure Script.Leads (s : Script) (letters : List Char) : Prop where
  known : s ∈ scripts
  first : ∀ t ∈ scripts, t.count letters < s.count letters ∨
    t.count letters = s.count letters ∧ s.code ≤ t.code

/-- The language that a script stands for. Cyrillic is Ukrainian where it has a letter that
Russian has not. -/
def Script.language (s : Script) (letters : List Char) : String :=
  if s.code = "ru" && letters.any ukrainianLetters.contains then "uk" else s.code

/-- The language that letters are in, if their script tells: a tenth of kana is enough, and any
other script needs three tenths. -/
inductive ScriptTells (letters : List Char) : String → Prop
  | kana (nonempty : letters ≠ []) (tenth : letters.length ≤ kana.count letters * 10) :
      ScriptTells letters "ja"
  | script {s : Script} (few : Language.kana.count letters * 10 < letters.length)
      (leads : s.Leads letters) (enough : letters.length * 3 ≤ s.count letters * 10) :
      ScriptTells letters (s.language letters)

theorem mem_scripts_of_ne (hs : s ∈ kana :: scripts) (hne : s.code ≠ kana.code) : s ∈ scripts :=
  (List.mem_cons.mp hs).resolve_left fun heq => hne (heq ▸ rfl)

theorem code_ne_kana : ∀ s ∈ scripts, s.code ≠ kana.code := by
  decide

theorem mem_scriptCodes_iff (hs : s ∈ kana :: scripts) :
    s.code ∈ scriptCodes letters ↔ 0 < s.count letters := by
  rw [← count_scriptCodes hs, List.count_pos_iff]

/-- The entries of the scripts that compete with each other. -/
def otherScripts (order : Tally.Order) (letters : List Char) : Tally :=
  (order.arrange (Tally.ofKeys (scriptCodes letters))).filter fun e => e.1 != kana.code

theorem mem_otherScripts_iff (order : Tally.Order) (letters : List Char) (code : String) (n : Nat) :
    (code, n) ∈ otherScripts order letters ↔
      ∃ s ∈ scripts, s.code = code ∧ s.count letters = n ∧ 0 < n := by
  rw [otherScripts, List.mem_filter, (Tally.tells_arrange order _).mem_iff]
  constructor
  · rintro ⟨⟨hcode, rfl⟩, hne⟩
    obtain ⟨s, hs, rfl⟩ := exists_script_of_mem hcode
    have hcount := count_scriptCodes hs letters
    refine ⟨s, mem_scripts_of_ne hs (by simpa using hne), rfl, hcount.symm, ?_⟩
    exact List.count_pos_iff.mpr hcode
  · rintro ⟨s, hs, rfl, rfl, hpos⟩
    have hknown : s ∈ kana :: scripts := List.mem_cons_of_mem kana hs
    refine ⟨⟨(mem_scriptCodes_iff hknown).mpr hpos, (count_scriptCodes hknown letters).symm⟩, ?_⟩
    simpa using code_ne_kana s hs

/-- The greatest entry is the leading script's, if it has any letters. -/
theorem tops_otherScripts_iff (order : Tally.Order) (letters : List Char) (code : String)
    (n : Nat) :
    Tally.Tops (code, n) (otherScripts order letters) ↔
      ∃ s : Script, s.Leads letters ∧ s.code = code ∧ s.count letters = n ∧ 0 < n := by
  rw [Tally.Tops, mem_otherScripts_iff]
  constructor
  · rintro ⟨⟨s, hs, rfl, rfl, hpos⟩, hall⟩
    refine ⟨s, ⟨hs, fun t ht => ?_⟩, rfl, rfl, hpos⟩
    by_cases hnone : t.count letters = 0
    · exact .inl (by omega)
    · have hentry := (mem_otherScripts_iff order letters t.code _).mpr
        ⟨t, ht, rfl, rfl, Nat.pos_of_ne_zero hnone⟩
      exact Tally.atMost_iff.mp (hall _ hentry)
  · rintro ⟨s, hleads, rfl, rfl, hpos⟩
    refine ⟨⟨s, hleads.known, rfl, rfl, hpos⟩, ?_⟩
    rintro ⟨code, n⟩ hentry
    obtain ⟨t, ht, rfl, rfl, -⟩ := (mem_otherScripts_iff order letters code n).mp hentry
    exact Tally.atMost_iff.mpr (hleads.first t ht)

theorem met_kana (letters : List Char) :
    (Tally.ofKeys (scriptCodes letters)).met kana.code = kana.count letters := by
  rw [Tally.met_ofKeys, count_scriptCodes List.mem_cons_self]

/-- What the guess makes of the leading script's code. -/
theorem some_language (s : Script) (letters : List Char) :
    (if (decide (s.code = "ru") && letters.any ukrainianLetters.contains) = true then some "uk"
      else some s.code) = some (s.language letters) := by
  rw [Script.language, apply_ite some]

section
variable {order : Tally.Order} {text : List Char} {code : String}

/-- Where a script is found to tell the language, it does. Kana are asked for first, and the
other scripts compete for what is left, in whatever order their counts are gone through. -/
theorem scriptTells_of_guessByScript (h : guessByScript order text = some code) :
    ScriptTells (text.filter Text.isAlphabetic) code := by
  rw [guessByScript] at h
  generalize text.filter Text.isAlphabetic = letters at *
  simp only [met_kana, List.isEmpty_iff] at h
  split at h
  · cases h
  split at h
  · rename_i hnonempty htenth
    obtain rfl := Option.some.inj h
    exact .kana hnonempty htenth
  rename_i hfew
  split at h
  · cases h
  rename_i leader n hgreatest
  obtain ⟨s, hleads, rfl, rfl, -⟩ :=
    (tops_otherScripts_iff order letters leader n).mp (Tally.greatest?_eq_some_iff.mp hgreatest)
  split at h
  · cases h
  rename_i henough
  rw [some_language, Option.some.injEq] at h
  exact h ▸ .script (Nat.not_le.mp hfew) hleads (Nat.not_lt.mp henough)

/-- A script that tells the language is found, whatever the order: no other script has as many
letters, or one that has comes later among the codes. -/
theorem guessByScript_of_scriptTells (h : ScriptTells (text.filter Text.isAlphabetic) code) :
    guessByScript order text = some code := by
  rw [guessByScript]
  generalize text.filter Text.isAlphabetic = letters at *
  simp only [met_kana, List.isEmpty_iff]
  cases h with
  | kana hnonempty htenth =>
    rw [if_neg hnonempty, if_pos htenth]
    rfl
  | @script s hfew hleads henough =>
    have hnonempty : letters ≠ [] := by
      rintro rfl
      exact absurd hfew (Nat.not_lt_zero _)
    have hgreatest : (otherScripts order letters).greatest? = some (s.code, s.count letters) :=
      Tally.greatest?_eq_some_iff.mpr
        ((tops_otherScripts_iff order letters _ _).mpr ⟨s, hleads, rfl, rfl, by omega⟩)
    rw [otherScripts] at hgreatest
    rw [if_neg hnonempty, if_neg (Nat.not_le.mpr hfew), hgreatest]
    simp only [if_neg (Nat.not_lt.mpr henough), some_language]

/-- In whichever order scripts are gone through, the guess is what the letters tell. -/
theorem guessByScript_eq_some_iff (order : Tally.Order) (text : List Char) (code : String) :
    guessByScript order text = some code ↔ ScriptTells (text.filter Text.isAlphabetic) code :=
  ⟨scriptTells_of_guessByScript, guessByScript_of_scriptTells⟩

end

def WordList.hits (list : WordList) (words : List String) : Nat := words.countP list.words.contains

theorem nodup_list_codes : (wordLists.map WordList.code).Nodup := by
  decide

variable {list : WordList} {words : List String}

theorem count_codes_of_word (hlist : list ∈ wordLists) (word : String) :
    ((wordLists.filter (·.words.contains word)).map WordList.code).count list.code =
      if list.words.contains word then 1 else 0 := by
  have honce : ((wordLists.filter (·.words.contains word)).map WordList.code).Nodup :=
    nodup_list_codes.sublist (List.filter_sublist.map _)
  rw [honce.count]
  congr 1
  rw [List.mem_map, eq_iff_iff]
  constructor
  · rintro ⟨other, hother, hcode⟩
    obtain ⟨hmem, hword⟩ := List.mem_filter.mp hother
    rwa [← List.inj_on_of_nodup_map nodup_list_codes hmem hlist hcode]
  · exact fun hword => ⟨list, List.mem_filter.mpr ⟨hlist, hword⟩, rfl⟩

theorem count_wordCodes (hlist : list ∈ wordLists) (words : List String) :
    (wordCodes words).count list.code = list.hits words := by
  induction words with
  | nil => rfl
  | cons word rest ih =>
    rw [wordCodes, List.flatMap_cons, List.count_append, count_codes_of_word hlist, WordList.hits,
      List.countP_cons, Nat.add_comm]
    exact congrArg (· + _) ih

theorem mem_wordCodes_iff (hlist : list ∈ wordLists) :
    list.code ∈ wordCodes words ↔ 0 < list.hits words := by
  rw [← count_wordCodes hlist, List.count_pos_iff]

theorem exists_list_of_mem {code : String} (h : code ∈ wordCodes words) :
    ∃ list ∈ wordLists, list.code = code := by
  obtain ⟨word, -, hcode⟩ := List.mem_flatMap.mp h
  obtain ⟨list, hlist, rfl⟩ := List.mem_map.mp hcode
  exact ⟨list, List.mem_of_mem_filter hlist, rfl⟩

/-- Enough words stand in a list, and fewer in every other. -/
structure WordList.Wins (list : WordList) (minHits : Nat) (words : List String) : Prop where
  known : list ∈ wordLists
  enough : max 1 minHits ≤ list.hits words
  first : ∀ other ∈ wordLists, other.code ≠ list.code → other.hits words < list.hits words

section
variable {d : Detector} {order : Tally.Order} {text : List Char}

/-- Where words tell the language, some list has enough of them and more than every other list.
The tally is ranked, so the first of its entries is compared with the second alone. -/
theorem exists_wins_of_guessByWords {code : String} (h : d.guessByWords order text = some code) :
    ∃ list : WordList, list.Wins d.minHits (spokenWords text) ∧ list.code = code := by
  rw [Detector.guessByWords] at h
  generalize spokenWords text = words at *
  have htells := Tally.tells_arrange order (wordCodes words)
  split at h
  · cases h
  rename_i leader hits rest hranked
  split at h
  · cases h
  rename_i henough
  split at h
  · cases h
  rename_i hsecond
  obtain rfl := Option.some.inj h
  have hbest := htells.count_lt_of_ranked hranked (Bool.eq_false_iff.mpr hsecond)
  have hentry := (Tally.ranked_perm _).mem_iff.mp (hranked ▸ List.mem_cons_self)
  obtain ⟨hmem, rfl⟩ := (htells.mem_iff leader hits).mp hentry
  obtain ⟨list, hlist, rfl⟩ := exists_list_of_mem hmem
  have hpos : 0 < (wordCodes words).count list.code := List.count_pos_iff.mpr hmem
  rw [count_wordCodes hlist] at henough hbest hpos
  refine ⟨list, ⟨hlist, by omega, fun other hother hne => ?_⟩, rfl⟩
  by_cases hnone : other.hits words = 0
  · omega
  · rw [← count_wordCodes hother]
    exact hbest other.code ((mem_wordCodes_iff hother).mpr (Nat.pos_of_ne_zero hnone)) hne

theorem guessByWords_of_wins (h : list.Wins d.minHits (spokenWords text)) :
    d.guessByWords order text = some list.code := by
  rw [Detector.guessByWords]
  generalize spokenWords text = words at *
  have htells := Tally.tells_arrange order (wordCodes words)
  have henough := h.enough
  have hothers (code : String) (hcode : code ∈ wordCodes words) (hne : code ≠ list.code) :
      (wordCodes words).count code < (wordCodes words).count list.code := by
    obtain ⟨other, hother, rfl⟩ := exists_list_of_mem hcode
    rw [count_wordCodes hother, count_wordCodes h.known]
    exact h.first other hother hne
  obtain ⟨rest, hranked, hsecond⟩ :=
    htells.exists_ranked_of_count_lt ((mem_wordCodes_iff h.known).mpr (by omega)) hothers
  rw [count_wordCodes h.known] at hranked hsecond
  simp only [hranked, hsecond]
  rw [if_neg (by omega), if_neg Bool.false_ne_true]

end

/-- The language of a text with given letters and words. -/
inductive Verdict (minHits : Nat) (letters : List Char) (words : List String) : Option String → Prop
  | script {code : String} (tells : ScriptTells letters code) :
    Verdict minHits letters words (some code)
  | words {list : WordList} (silent : ∀ code, ¬ ScriptTells letters code)
      (wins : list.Wins minHits words) : Verdict minHits letters words (some list.code)
  | none (silent : ∀ code, ¬ ScriptTells letters code)
      (undecided : ∀ list : WordList, ¬ list.Wins minHits words) :
        Verdict minHits letters words none

def lettersOf (text : List Char) : List Char := (spokenText text).filter Text.isAlphabetic

def wordsOf (text : List Char) : List String := spokenWords (spokenText text)

variable (d : Detector) (scriptOrder wordOrder : Tally.Order) (text : List Char)

theorem guessByScript_eq_none_iff :
    guessByScript scriptOrder (spokenText text) = none ↔
      ∀ code, ¬ ScriptTells (lettersOf text) code := by
  rw [Option.eq_none_iff_forall_ne_some]
  exact forall_congr' fun code => not_congr (guessByScript_eq_some_iff scriptOrder _ code)

theorem verdict_detectIn :
    Verdict d.minHits (lettersOf text) (wordsOf text) (d.detectIn scriptOrder wordOrder text) := by
  rw [Detector.detectIn]
  cases hscript : guessByScript scriptOrder (spokenText text) with
  | some code => exact .script ((guessByScript_eq_some_iff scriptOrder _ code).mp hscript)
  | none =>
    have hsilent := (guessByScript_eq_none_iff scriptOrder text).mp hscript
    cases hwords : d.guessByWords wordOrder (spokenText text) with
    | some code =>
      obtain ⟨list, hwins, rfl⟩ := exists_wins_of_guessByWords hwords
      exact .words hsilent hwins
    | none =>
      refine .none hsilent fun list hwins => ?_
      rw [guessByWords_of_wins hwins] at hwords
      cases hwords

variable {d text}

theorem detectIn_of_verdict {answer : Option String}
    (h : Verdict d.minHits (lettersOf text) (wordsOf text) answer) :
    d.detectIn scriptOrder wordOrder text = answer := by
  rw [Detector.detectIn]
  cases h with
  | script tells => rw [(guessByScript_eq_some_iff scriptOrder _ _).mpr tells]
  | words silent wins =>
    rw [(guessByScript_eq_none_iff scriptOrder text).mpr silent]
    exact guessByWords_of_wins wins
  | none silent undecided =>
    rw [(guessByScript_eq_none_iff scriptOrder text).mpr silent]
    refine Option.eq_none_iff_forall_ne_some.mpr fun code hcode => ?_
    obtain ⟨list, hwins, -⟩ := exists_wins_of_guessByWords hcode
    exact undecided list hwins

/-- In whichever order the counts are gone through, the answer is the verdict on the letters and
the words that are spoken. -/
theorem detectText_eq_iff_verdict (d : Detector) (text : List Char)
    (scriptOrder wordOrder : Tally.Order) (answer : Option String) :
    d.detectIn scriptOrder wordOrder text = d.detectText text ∧
      (d.detectText text = answer ↔ Verdict d.minHits (lettersOf text) (wordsOf text) answer) := by
  have hverdict := verdict_detectIn d .asMet .asMet text
  refine ⟨detectIn_of_verdict scriptOrder wordOrder hverdict, fun h => ?_,
    detectIn_of_verdict .asMet .asMet⟩
  rw [← h]
  exact hverdict

end Subtitling.Language
