import Subtitling.Proofs.Text.Blank
import Subtitling.Text.LowerCase

/-!
Lower-casing. What comes out is made of characters that lower-casing leaves alone, none of them
blank or a colon unless it came in, so that a lower-cased text stays as it is and trimming may
come first. A line feed is a wall: no character behind it has a say in the form of one before it,
or the other way round.
-/

namespace Subtitling.Text

def CaseRun.points (run : CaseRun) : List Nat :=
  ((List.range (run.high - run.low + 1)).filter fun k => k % run.step == 0).map (run.low + ·)

def CaseRun.moved (run : CaseRun) (n : Nat) : Nat := ((n : Int) + run.shift).toNat

def movedPoints : List Nat := caseRuns.flatMap CaseRun.points

/-- The code points that something is moved to, and those that take the place of a capital sigma
and of a capital i with a dot. -/
def loweredPoints : List Nat :=
  (caseRuns.flatMap fun run => run.points.map run.moved) ++ [0x3c2, 0x3c3, 0x69, 0x307]

/-- Some numbers, as the bits of one. -/
def bitSet (ns : List Nat) : Nat := ns.foldl (fun bits n => bits ||| 1 <<< n) 0

/-- What holds of each lowered code point: it is that of a character, which is not blank, and is
not moved itself. -/
def isSettled (moving : Nat) (n : Nat) : Bool :=
  !moving.testBit n && (0x80 ≤ n || (97 ≤ n && n ≤ 122)) && n != 0x130 &&
    (n < 0xd800 || 0xe000 ≤ n) && n < 0x110000 && !isBlank (Char.ofNat n)

theorem testBit_bitSet (ns : List Nat) (n : Nat) : (bitSet ns).testBit n = decide (n ∈ ns) := by
  have hfrom : ∀ bits, (ns.foldl (fun bits n => bits ||| 1 <<< n) bits).testBit n =
      (bits.testBit n || decide (n ∈ ns)) := by
    induction ns with
    | nil => simp
    | cons m rest ih =>
      intro bits
      rw [List.foldl_cons, ih, Nat.testBit_or, Nat.one_shiftLeft, Nat.testBit_two_pow,
        Bool.or_assoc]
      simp [eq_comm]
  rw [bitSet, hfrom, Nat.zero_testBit, Bool.false_or]

/-- The table is walked through once, with the points that it moves as bits beside it. -/
theorem all_isSettled : loweredPoints.all (isSettled (bitSet movedPoints)) = true := by
  decide +kernel

theorem mem_points_iff (run : CaseRun) (n : Nat) :
    n ∈ run.points ↔ run.low ≤ n ∧ n - run.low ≤ run.high - run.low ∧
      (n - run.low) % run.step = 0 := by
  simp only [CaseRun.points, List.mem_map, List.mem_filter, List.mem_range, beq_iff_eq]
  constructor
  · rintro ⟨k, ⟨hk, hstep⟩, rfl⟩
    rw [Nat.add_sub_cancel_left]
    exact ⟨Nat.le_add_right _ _, Nat.le_of_lt_succ hk, hstep⟩
  · rintro ⟨hlow, hhigh, hstep⟩
    exact ⟨n - run.low, ⟨Nat.lt_succ_of_le hhigh, hstep⟩, Nat.add_sub_cancel' hlow⟩

/-- A code point stays where it is or is moved by a run of the table that holds it. -/
theorem lowerCodePoint_cases (runs : List CaseRun) (n : Nat) :
    lowerCodePoint runs n = n ∨ ∃ run ∈ runs, n ∈ run.points ∧
      lowerCodePoint runs n = run.moved n := by
  induction runs with
  | nil => exact .inl rfl
  | cons run rest ih =>
    rw [lowerCodePoint]
    split
    · exact .inl rfl
    · rename_i hlow
      split
      · rename_i hin
        rw [Bool.and_eq_true, decide_eq_true_eq, beq_iff_eq] at hin
        refine .inr ⟨run, by simp, (mem_points_iff run n).mpr ⟨by omega, by omega, hin.2⟩, rfl⟩
      · rcases ih with hsame | ⟨other, hother, hmoved⟩
        · exact .inl hsame
        · exact .inr ⟨other, by simp [hother], hmoved⟩

theorem lowerCodePoint_of_not_mem (n : Nat) (h : n ∉ movedPoints) :
    lowerCodePoint caseRuns n = n := by
  rcases lowerCodePoint_cases caseRuns n with hsame | ⟨run, hrun, hpoint, -⟩
  · exact hsame
  · exact absurd (List.mem_flatMap.mpr ⟨run, hrun, hpoint⟩) h

/-- Lower-casing leaves a character as it is, whatever stands around it. -/
def IsLower (c : Char) : Prop := ∀ before after, lowerChar before c after = [c]

/-- One character of the lower-case form of another. -/
structure IsLowerForm (c d : Char) : Prop where
  isLower : IsLower d
  not_isBlank : isBlank c = false → isBlank d = false
  ne_colon : c ≠ ':' → d ≠ ':'

theorem isLower_of_fixed (c : Char) (hascii : ¬ c.toNat < 0x80) (hsigma : c ≠ '\u03a3')
    (hdotted : c ≠ '\u0130') (h : lowerCodePoint caseRuns c.toNat = c.toNat) : IsLower c := by
  intro before after
  rw [lowerChar, if_neg hascii, if_neg hsigma, if_neg hdotted, h, Char.ofNat_toNat]

theorem ascii_lower (n : Nat) (h : n < 0x80) :
    let d := (Char.ofNat n).toLower
    d.toNat < 0x80 ∧ d.toLower = d ∧ isBlank d = isBlank (Char.ofNat n) ∧
      (Char.ofNat n ≠ ':' → d ≠ ':') := by
  revert n
  decide

theorem isLower_of_ascii (c : Char) (h : c.toNat < 0x80) (hlower : c.toLower = c) : IsLower c := by
  intro before after
  rw [lowerChar, if_pos h, hlower]

theorem isLowerForm_ascii (c : Char) (h : c.toNat < 0x80) : IsLowerForm c c.toLower := by
  have hlower := ascii_lower c.toNat h
  rw [Char.ofNat_toNat] at hlower
  obtain ⟨hascii, hsame, hblank, hcolon⟩ := hlower
  exact ⟨isLower_of_ascii _ hascii hsame, fun hc => hblank.trans hc, hcolon⟩

/-- A character that another one is lowered to is in lower case: no run moves it any further, and
it is neither a blank nor a colon. All such characters are gone through for that. -/
theorem isLowerForm_of_lowered (c : Char) (n : Nat) (hn : n ∈ loweredPoints) :
    IsLowerForm c (Char.ofNat n) := by
  have h := List.all_eq_true.mp all_isSettled n hn
  simp only [isSettled, Bool.and_eq_true, Bool.or_eq_true, Bool.not_eq_true', decide_eq_true_eq,
    bne_iff_ne, testBit_bitSet, decide_eq_false_iff_not] at h
  obtain ⟨⟨⟨⟨⟨hmoved, hletter⟩, hdotted⟩, hsurrogate⟩, hbound⟩, hblank⟩ := h
  have hvalid : n.isValidChar := hsurrogate.imp id fun hhigh => ⟨by omega, hbound⟩
  have hnat : (Char.ofNat n).toNat = n := by
    rw [Char.ofNat, dif_pos hvalid]
    rfl
  have hlower : IsLower (Char.ofNat n) := by
    by_cases hascii : n < 0x80
    · have hsame : ∀ m < 0x80, 97 ≤ m → m ≤ 122 → (Char.ofNat m).toLower = Char.ofNat m := by decide
      exact isLower_of_ascii _ (by omega) (hsame n hascii (by omega) (by omega))
    · have hsigma : Char.ofNat n ≠ '\u03a3' := by
        intro heq
        rw [heq] at hnat
        rw [← hnat] at hmoved
        exact hmoved (by decide)
      have hi : Char.ofNat n ≠ '\u0130' := by
        intro heq
        rw [heq] at hnat
        exact hdotted hnat.symm
      have hfixed : lowerCodePoint caseRuns (Char.ofNat n).toNat = (Char.ofNat n).toNat := by
        rw [hnat, lowerCodePoint_of_not_mem n hmoved]
      exact isLower_of_fixed _ (by omega) hsigma hi hfixed
  refine ⟨hlower, fun _ => hblank, fun _ heq => ?_⟩
  rw [heq] at hnat
  have hcolon : n = 58 := hnat.symm
  omega

/-- Each character that comes out is left alone from then on. This takes in the two characters
that have a form of their own: the sigma, which looks at its neighbours, and the dotted capital,
which becomes two characters. -/
theorem isLowerForm_of_mem (before after : List Char) (c d : Char)
    (h : d ∈ lowerChar before c after) : IsLowerForm c d := by
  rw [lowerChar] at h
  by_cases hascii : c.toNat < 0x80
  · rw [if_pos hascii, List.mem_singleton] at h
    rw [h]
    exact isLowerForm_ascii c hascii
  rw [if_neg hascii] at h
  by_cases hsigma : c = '\u03a3'
  · rw [if_pos hsigma] at h
    split at h
    · rw [List.mem_singleton.mp h]
      exact isLowerForm_of_lowered c 0x3c2 (List.mem_append_right _ (by simp))
    · rw [List.mem_singleton.mp h]
      exact isLowerForm_of_lowered c 0x3c3 (List.mem_append_right _ (by simp))
  rw [if_neg hsigma] at h
  by_cases hdotted : c = '\u0130'
  · rw [if_pos hdotted, List.mem_cons, List.mem_singleton] at h
    rcases h with rfl | rfl
    · exact isLowerForm_of_lowered c 0x69 (List.mem_append_right _ (by simp))
    · exact isLowerForm_of_lowered c 0x307 (List.mem_append_right _ (by simp))
  rw [if_neg hdotted, List.mem_singleton] at h
  rcases lowerCodePoint_cases caseRuns c.toNat with hsame | ⟨run, hrun, hpoint, hmoved⟩
  · rw [hsame, Char.ofNat_toNat] at h
    rw [h]
    exact ⟨isLower_of_fixed c hascii hsigma hdotted hsame, id, id⟩
  · rw [h, hmoved]
    exact isLowerForm_of_lowered c _ (List.mem_append_left _
      (List.mem_flatMap.mpr ⟨run, hrun, List.mem_map.mpr ⟨_, hpoint, rfl⟩⟩))

theorem lowerAfter_of_isLower (before cs : List Char) (h : ∀ c ∈ cs, IsLower c) :
    lowerAfter before cs = cs := by
  induction cs generalizing before with
  | nil => rfl
  | cons c rest ih =>
    have hrest := ih (c :: before) fun d hd => h d (by simp [hd])
    rw [lowerAfter, h c (by simp), hrest, List.singleton_append]

theorem exists_of_mem_lowerAfter (before cs : List Char) (d : Char) (h : d ∈ lowerAfter before cs) :
    ∃ c ∈ cs, IsLowerForm c d := by
  induction cs generalizing before with
  | nil => cases h
  | cons c rest ih =>
    rw [lowerAfter, List.mem_append] at h
    rcases h with hc | hrest
    · exact ⟨c, by simp, isLowerForm_of_mem _ _ c d hc⟩
    · obtain ⟨e, he, hform⟩ := ih (c :: before) hrest
      exact ⟨e, by simp [he], hform⟩

/-- A text that is lower-cased stays as it is when it is lower-cased again. -/
theorem lowerChars_lowerChars (cs : List Char) : lowerChars (lowerChars cs) = lowerChars cs := by
  apply lowerAfter_of_isLower
  intro d hd
  obtain ⟨c, -, hform⟩ := exists_of_mem_lowerAfter [] cs d hd
  exact hform.isLower

theorem not_mem_colon_lowerChars (cs : List Char) (h : ':' ∉ cs) : ':' ∉ lowerChars cs := by
  intro hmem
  obtain ⟨c, hc, hform⟩ := exists_of_mem_lowerAfter [] cs ':' hmem
  exact hform.ne_colon (fun heq => h (heq ▸ hc)) rfl

theorem lowerChar_ne_nil (before after : List Char) (c : Char) : lowerChar before c after ≠ [] := by
  rw [lowerChar]
  split
  · simp
  · split
    · split <;> simp
    · split <;> simp

/-- What the last character of a text is lower-cased to stands at the end. -/
theorem exists_lowerAfter_append (before cs : List Char) (c : Char) :
    ∃ front context, lowerAfter before (cs ++ [c]) = front ++ lowerChar context c [] := by
  induction cs generalizing before with
  | nil => exact ⟨[], before, by simp [lowerAfter]⟩
  | cons d rest ih =>
    obtain ⟨front, context, hrest⟩ := ih (d :: before)
    refine ⟨lowerChar before d (rest ++ [c]) ++ front, context, ?_⟩
    rw [List.cons_append, lowerAfter, hrest, List.append_assoc]

/-- No blank comes to stand at an end of a text. A blank comes only from a blank, and no
character is lost. -/
theorem isTrimmed_lowerChars (cs : List Char) (h : IsTrimmed cs) : IsTrimmed (lowerChars cs) := by
  constructor
  · intro d hd
    cases cs with
    | nil => cases hd
    | cons c rest =>
      have hfirst : d ∈ lowerChar [] c rest := by
        rw [lowerChars, lowerAfter, List.head?_append] at hd
        cases hform : lowerChar [] c rest with
        | nil => exact absurd hform (lowerChar_ne_nil [] rest c)
        | cons e more =>
          rw [hform] at hd
          exact List.mem_of_mem_head? hd
      exact (isLowerForm_of_mem _ _ c d hfirst).not_isBlank (h.1 c rfl)
  · intro d hd
    rcases List.eq_nil_or_concat cs with rfl | ⟨front, c, rfl⟩
    · cases hd
    · rw [List.concat_eq_append] at h hd
      obtain ⟨lowered, context, heq⟩ := exists_lowerAfter_append [] front c
      have hlast : d ∈ lowerChar context c [] := by
        rw [lowerChars, heq, List.getLast?_append] at hd
        cases hform : (lowerChar context c []).getLast? with
        | none => exact absurd (List.getLast?_eq_none_iff.mp hform) (lowerChar_ne_nil context [] c)
        | some e =>
          rw [hform] at hd
          exact List.mem_of_getLast? (hform.trans hd)
      exact (isLowerForm_of_mem _ _ c d hlast).not_isBlank (h.2 c (by simp))

/-- A line feed counts for no one's case. -/
theorem meetsCased_append_feed (cs rest : List Char) :
    meetsCased (cs ++ '\n' :: rest) = meetsCased cs := by
  have hignored : ¬ caseIgnorableRanges.contains '\n'.toNat = true := by decide
  have hcased : casedRanges.contains '\n'.toNat = false := by decide
  have hfeed : ('\n' :: rest).dropWhile (fun c => caseIgnorableRanges.contains c.toNat) =
    '\n' :: rest :=
    List.dropWhile_cons_of_neg hignored
  rw [meetsCased, meetsCased, List.dropWhile_append]
  cases hcs : cs.dropWhile fun c => caseIgnorableRanges.contains c.toNat with
  | nil =>
    rw [List.isEmpty_nil, if_pos rfl, hfeed]
    exact hcased
  | cons c more => rfl

theorem lowerChar_feed_after (before after rest : List Char) (c : Char) :
    lowerChar before c (after ++ '\n' :: rest) = lowerChar before c after := by
  rw [lowerChar, lowerChar, meetsCased_append_feed]

theorem lowerChar_feed_before (before after rest : List Char) (c : Char) :
    lowerChar (before ++ '\n' :: rest) c after = lowerChar before c after := by
  rw [lowerChar, lowerChar, meetsCased_append_feed]

theorem lowerAfter_feed_before (before rest cs : List Char) :
    lowerAfter (before ++ '\n' :: rest) cs = lowerAfter before cs := by
  induction cs generalizing before with
  | nil => rfl
  | cons c more ih =>
    rw [lowerAfter, lowerAfter, lowerChar_feed_before, ← List.cons_append, ih]

theorem lowerAfter_append_feed (before cs rest : List Char) :
    lowerAfter before (cs ++ '\n' :: rest) = lowerAfter before cs ++ '\n' :: lowerChars rest := by
  induction cs generalizing before with
  | nil =>
    have hrest : lowerAfter ('\n' :: before) rest = lowerChars rest :=
      lowerAfter_feed_before [] before rest
    have hfeed : lowerChar before '\n' rest = ['\n'] := rfl
    rw [List.nil_append, lowerAfter, lowerAfter, hfeed, hrest]
    rfl
  | cons c more ih =>
    rw [List.cons_append, lowerAfter, lowerAfter, lowerChar_feed_after, ih, List.append_assoc]

/-- Lines are lower-cased each on its own. -/
theorem lowerChars_append_feed (cs rest : List Char) :
    lowerChars (cs ++ '\n' :: rest) = lowerChars cs ++ '\n' :: lowerChars rest :=
  lowerAfter_append_feed [] cs rest

end Subtitling.Text
