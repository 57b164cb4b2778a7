import Subtitling.Proofs.Language.Verdict

/-!
A verdict is a matter of proportions. A script's share of the letters stays the same where every
letter is there so many times as often, and a list that has more words than another still has
more. With as many of everything, in whatever order, nothing about the verdict changes.
-/

namespace Subtitling.Language

variable {α : Type} {k : Nat}

/-- All that one list holds stands in another `k` times as often. -/
def IsMultiple (k : Nat) (xs ys : List α) : Prop := ∀ p : α → Bool, ys.countP p = k * xs.countP p

section
variable {xs ys : List α}

theorem isMultiple_of_perm (h : xs.Perm ys) : IsMultiple 1 xs ys :=
  fun p => by rw [Nat.one_mul, h.countP_eq p]

theorem IsMultiple.symm (h : IsMultiple 1 xs ys) : IsMultiple 1 ys xs :=
  fun p => by rw [h p, Nat.one_mul, Nat.one_mul]

/-- Once more. -/
theorem IsMultiple.append (h : IsMultiple k xs ys) : IsMultiple (k + 1) xs (xs ++ ys) :=
  fun p => by rw [List.countP_append, h p, Nat.add_mul, Nat.one_mul, Nat.add_comm]

theorem IsMultiple.length (h : IsMultiple k xs ys) : ys.length = k * xs.length := by
  have hall := h fun _ => true
  rwa [List.countP_true] at hall

theorem IsMultiple.exists_mem_iff (h : IsMultiple k xs ys) (hk : 0 < k) (p : α → Bool) :
    (∃ x ∈ ys, p x = true) ↔ ∃ x ∈ xs, p x = true := by
  rw [← List.countP_pos_iff, ← List.countP_pos_iff, h p]
  exact Nat.mul_pos_iff_of_pos_left hk

end

section
variable {letters more : List Char} {s : Script}

theorem IsMultiple.leads_iff (h : IsMultiple k letters more) (hk : 0 < k) :
    s.Leads more ↔ s.Leads letters := by
  have hcount (t : Script) : t.count more = k * t.count letters := h t.holds
  have hlt (t : Script) : t.count more < s.count more ↔ t.count letters < s.count letters := by
    rw [hcount, hcount, Nat.mul_lt_mul_left hk]
  have heq (t : Script) : t.count more = s.count more ↔ t.count letters = s.count letters := by
    rw [hcount, hcount, Nat.mul_right_inj (Nat.ne_of_gt hk)]
  constructor
  · rintro ⟨hknown, hfirst⟩
    exact ⟨hknown, fun t ht => by rw [← hlt, ← heq]; exact hfirst t ht⟩
  · rintro ⟨hknown, hfirst⟩
    exact ⟨hknown, fun t ht => by rw [hlt, heq]; exact hfirst t ht⟩

theorem IsMultiple.language_eq (h : IsMultiple k letters more) (hk : 0 < k) (s : Script) :
    s.language more = s.language letters := by
  have hany : more.any ukrainianLetters.contains = letters.any ukrainianLetters.contains := by
    rw [Bool.eq_iff_iff, List.any_eq_true, List.any_eq_true, h.exists_mem_iff hk]
  rw [Script.language, Script.language, hany]

/-- A script tells the language of some letters just where it tells that of so many copies of
them. Only shares of all letters and comparisons between counts decide, and copies keep both. -/
theorem IsMultiple.scriptTells_iff (h : IsMultiple k letters more) (hk : 0 < k) (code : String) :
    ScriptTells more code ↔ ScriptTells letters code := by
  have hcount (t : Script) : t.count more = k * t.count letters := h t.holds
  have hnonempty : more ≠ [] ↔ letters ≠ [] := by
    rw [← List.length_pos_iff, ← List.length_pos_iff, h.length]
    exact Nat.mul_pos_iff_of_pos_left hk
  have htenth : more.length ≤ kana.count more * 10 ↔ letters.length ≤ kana.count letters * 10 := by
    rw [h.length, hcount, Nat.mul_assoc, Nat.mul_le_mul_left_iff hk]
  have henough (t : Script) : more.length * 3 ≤ t.count more * 10 ↔
      letters.length * 3 ≤ t.count letters * 10 := by
    rw [h.length, hcount, Nat.mul_assoc, Nat.mul_assoc, Nat.mul_le_mul_left_iff hk]
  constructor
  · intro htells
    cases htells with
    | kana nonempty tenth => exact .kana (hnonempty.mp nonempty) (htenth.mp tenth)
    | script few leads enough =>
      rw [h.language_eq hk]
      rw [← Nat.not_le, htenth, Nat.not_le] at few
      exact .script few ((h.leads_iff hk).mp leads) ((henough _).mp enough)
  · intro htells
    cases htells with
    | kana nonempty tenth => exact .kana (hnonempty.mpr nonempty) (htenth.mpr tenth)
    | script few leads enough =>
      rw [← h.language_eq hk]
      rw [← Nat.not_le, ← htenth, Nat.not_le] at few
      exact .script few ((h.leads_iff hk).mpr leads) ((henough _).mpr enough)

end

section
variable {letters letters' : List Char} {words words' : List String} {list : WordList}
  {minHits : Nat}

theorem WordList.Wins.of_multiple (hwins : list.Wins minHits words) (h : IsMultiple k words words')
    (hk : 0 < k) : list.Wins minHits words' where
  known := hwins.known
  enough := by
    have hhits : list.hits words' = k * list.hits words := h list.words.contains
    rw [hhits]
    exact Nat.le_trans hwins.enough (Nat.le_mul_of_pos_left _ hk)
  first := by
    intro other hother hne
    have hhits (l : WordList) : l.hits words' = k * l.hits words := h l.words.contains
    rw [hhits, hhits, Nat.mul_lt_mul_left hk]
    exact hwins.first other hother hne

/-- Where there is a verdict, more of the same does not change it. -/
theorem Verdict.of_multiple {code : String} (hverdict : Verdict minHits letters words (some code))
    (hletters : IsMultiple k letters letters') (hwords : IsMultiple k words words') (hk : 0 < k) :
    Verdict minHits letters' words' (some code) := by
  cases hverdict with
  | script tells => exact .script ((hletters.scriptTells_iff hk code).mpr tells)
  | words silent wins =>
    exact .words (fun code => mt (hletters.scriptTells_iff hk code).mp (silent code))
      (wins.of_multiple hwords hk)

/-- The order of letters and words is of no account, also where there is no verdict. -/
theorem Verdict.of_perm {answer : Option String} (hverdict : Verdict minHits letters words answer)
    (hletters : letters.Perm letters') (hwords : words.Perm words') :
    Verdict minHits letters' words' answer := by
  have hletters := isMultiple_of_perm hletters
  have hwords := isMultiple_of_perm hwords
  cases answer with
  | some code => exact hverdict.of_multiple hletters hwords Nat.one_pos
  | none =>
    cases hverdict with
    | none silent undecided =>
      exact .none (fun code => mt (hletters.scriptTells_iff Nat.one_pos code).mp (silent code))
        fun list hwins => undecided list (hwins.of_multiple hwords.symm Nat.one_pos)

end

end Subtitling.Language
