import Subtitling.Language.Code
import Subtitling.Proofs.Text.LowerCase
import Subtitling.Proofs.Text.Split

/-!
Language codes keep one form. What a code is folded to is folded already, so it does not matter
how often that is done on the way from a tag to a comparison; and the code of a tag is what
stands before its first colon, whatever is behind.
-/

namespace Subtitling.Language

/-- The form in which codes are kept: not empty, without a colon, and left alone by trimming and by
lower-casing. -/
structure IsCode (code : String) : Prop where
  ne_empty : code ≠ ""
  no_colon : ':' ∉ code.toList
  trimmed : Text.trimmed code = code
  lower : Text.lower code = code

def codeOf (text : List Char) : String :=
  let code := fold (String.ofList text)
  if code.isEmpty then undetermined else code

/-- The code that a tag names: what stands before its first colon, or `und` where that is blank. -/
def leadingCode (tag : String) : String := codeOf (tag.toList.takeWhile (· ≠ ':'))

theorem toList_fold (code : String) :
    (fold code).toList = Text.lowerChars (Text.trim code.toList) := by
  rw [fold, Text.lower, Text.trimmed, String.toList_ofList, String.toList_ofList]

theorem fold_ofList (text : List Char) :
    fold (String.ofList text) = fold (String.ofList (Text.trim text)) := by
  have htrim : Text.trim (Text.trim text) = Text.trim text :=
    Text.trim_of_isTrimmed _ (Text.isTrimmed_trim text)
  rw [← String.toList_inj, toList_fold, toList_fold, String.toList_ofList, String.toList_ofList,
    htrim]

theorem trimmed_fold (code : String) : Text.trimmed (fold code) = fold code := by
  have htrim : Text.trim (fold code).toList = (fold code).toList := by
    rw [toList_fold]
    exact Text.trim_of_isTrimmed _ (Text.isTrimmed_lowerChars _ (Text.isTrimmed_trim code.toList))
  rw [Text.trimmed, htrim, String.ofList_toList]

theorem lower_fold (code : String) : Text.lower (fold code) = fold code := by
  have hlower : Text.lowerChars (fold code).toList = (fold code).toList := by
    rw [toList_fold, Text.lowerChars_lowerChars]
  rw [Text.lower, hlower, String.ofList_toList]

theorem fold_of_settled {code : String} (htrimmed : Text.trimmed code = code)
    (hlower : Text.lower code = code) : fold code = code := by
  rw [fold, htrimmed, hlower]

/-- Folding a code once more changes nothing. -/
theorem fold_fold (code : String) : fold (fold code) = fold code :=
  fold_of_settled (trimmed_fold code) (lower_fold code)

theorem IsCode.fold_eq {code : String} (h : IsCode code) : fold code = code :=
  fold_of_settled h.trimmed h.lower

theorem isCode_undetermined : IsCode undetermined :=
  ⟨by decide, by decide, by decide, by decide⟩

theorem isCode_codeOf (text : List Char) (h : ':' ∉ text) : IsCode (codeOf text) := by
  rw [codeOf]
  split
  · exact isCode_undetermined
  · rename_i hne
    refine ⟨fun heq => hne (by rw [heq]; rfl), ?_, trimmed_fold _, lower_fold _⟩
    rw [toList_fold, String.toList_ofList]
    exact Text.not_mem_colon_lowerChars _ fun hmem => h (Text.mem_of_mem_trim text ':' hmem)

theorem isCode_leadingCode (tag : String) : IsCode (leadingCode tag) := by
  apply isCode_codeOf
  intro hmem
  simpa using List.all_eq_true.mp List.all_takeWhile ':' hmem

/-- What stands before the first colon of a tag may be looked for in the trimmed tag as well. -/
theorem trim_takeWhile_trim (cs : List Char) :
    Text.trim ((Text.trim cs).takeWhile (· ≠ ':')) = Text.trim (cs.takeWhile (· ≠ ':')) := by
  obtain ⟨front, back, hcs, hfront, hback⟩ := Text.exists_append_trim_append cs
  have hpass (blanks : List Char) (h : ∀ c ∈ blanks, Text.isBlank c = true) :
      ∀ c ∈ blanks, decide (c ≠ ':') = true := by
    intro c hc
    rw [decide_eq_true_eq]
    rintro rfl
    exact absurd (h ':' hc) (by decide)
  have hbehind : Text.trim (cs.takeWhile (· ≠ ':')) =
      Text.trim ((Text.trim cs ++ back).takeWhile (· ≠ ':')) := by
    conv => lhs; rw [hcs, List.append_assoc, List.takeWhile_append_of_pos (hpass front hfront)]
    exact Text.trim_blanks_append front _ hfront
  rw [hbehind, List.takeWhile_append]
  split
  · rename_i hlength
    have hwhole : (Text.trim cs).takeWhile (· ≠ ':') = Text.trim cs :=
      (List.takeWhile_prefix _).eq_of_length hlength
    rw [hwhole, Text.trim_append_blanks _ _ fun c hc => hback c ((List.takeWhile_sublist _).mem hc)]
  · rfl

theorem code_parse (tag : String) : (Tag.parse tag).code = leadingCode tag := by
  obtain ⟨more, hpieces⟩ := Text.exists_splitWhen_eq (· = ':') (Text.trim tag.toList)
  have hpass : (fun c : Char => !decide (c = ':')) = fun c => decide (c ≠ ':') := by
    funext c
    rw [decide_not]
  rw [hpass] at hpieces
  rw [leadingCode, codeOf, fold_ofList, ← trim_takeWhile_trim, ← fold_ofList, Tag.parse, hpieces]
  simp only [List.map_cons, List.headD_cons]

/-- A tag has one modifier at most. -/
theorem not_hi_and_forced (tag : String) :
    ¬ ((Tag.parse tag).hi = true ∧ (Tag.parse tag).forced = true) := by
  rintro ⟨hhi, hforced⟩
  rw [Tag.parse, beq_iff_eq] at hhi hforced
  exact absurd (Option.some.inj (hhi.symm.trans hforced)) (by decide)

section

variable {code : String} (h : IsCode code)
include h

theorem IsCode.isTrimmed : Text.IsTrimmed code.toList := by
  have htrim := Text.isTrimmed_trim code.toList
  have hsame : Text.trim code.toList = code.toList := by
    have hchars := congrArg String.toList h.trimmed
    rwa [Text.trimmed, String.toList_ofList] at hchars
  rwa [hsame] at htrim

theorem IsCode.exists_cons : ∃ c rest, code.toList = c :: rest := by
  cases hchars : code.toList with
  | nil => exact absurd (String.toList_eq_nil_iff.mp hchars) h.ne_empty
  | cons c rest => exact ⟨c, rest, rfl⟩

theorem IsCode.parse_eq : Tag.parse code = ⟨code, false, false⟩ := by
  have hpieces : Text.splitWhen (· = ':') code.toList = [code.toList] :=
    Text.splitWhen_of_none _ _ fun c hc => decide_eq_false fun heq => h.no_colon (heq ▸ hc)
  have hne : code.isEmpty = false := by simpa using h.ne_empty
  rw [Tag.parse, Text.trim_of_isTrimmed _ h.isTrimmed, hpieces]
  simp [h.fold_eq, hne]

/-- A tag of a code and a modifier is read as just these, since a code has no colon in it and
none of its characters is lost when the tag is trimmed and folded. -/
theorem IsCode.parse_modified {modifier : String} (hm : IsCode modifier) :
    Tag.parse (code ++ ":" ++ modifier) = ⟨code, modifier == "hi", modifier == "forced"⟩ := by
  have hwhole : Text.IsTrimmed (code.toList ++ ':' :: modifier.toList) := by
    obtain ⟨c, rest, hcode⟩ := h.exists_cons
    obtain ⟨d, more, hmodifier⟩ := hm.exists_cons
    have hfront := h.isTrimmed.1
    have hback := hm.isTrimmed.2
    constructor
    · rw [hcode] at hfront ⊢
      exact hfront
    · rw [hmodifier] at hback ⊢
      intro e he
      apply hback
      rw [List.getLast?_append, List.getLast?_cons_cons, List.getLast?_cons] at he
      rw [List.getLast?_cons]
      exact he
  have hpieces : Text.splitWhen (· = ':') (code.toList ++ ':' :: modifier.toList) =
      [code.toList, modifier.toList] := by
    rw [Text.splitWhen_append_cons _ _ _ ':' (by decide), Text.splitWhen_of_none,
      Text.splitWhen_of_none]
    · rfl
    · exact fun c hc => decide_eq_false fun heq => hm.no_colon (heq ▸ hc)
    · exact fun c hc => decide_eq_false fun heq => h.no_colon (heq ▸ hc)
  have hcode : code.isEmpty = false := by simpa using h.ne_empty
  have htext : (code ++ ":" ++ modifier).toList = code.toList ++ ':' :: modifier.toList := by
    simp
  rw [Tag.parse, htext, Text.trim_of_isTrimmed _ hwhole, hpieces]
  simp [h.fold_eq, hm.fold_eq, hcode]

end

theorem isCode_hi : IsCode "hi" := ⟨by decide, by decide, by decide, by decide⟩

theorem isCode_forced : IsCode "forced" := ⟨by decide, by decide, by decide, by decide⟩

/-- A tag is read as it is shown. Only one of the two modifiers can be shown, which is why a tag
with both is left out. -/
theorem parse_display (tag : Tag) (h : IsCode tag.code)
    (hone : ¬ (tag.hi = true ∧ tag.forced = true)) :
    Tag.parse tag.display = tag := by
  obtain ⟨code, hi, forced⟩ := tag
  have hmark : ":" ++ "hi" = ":hi" := by decide
  have hforcedMark : ":" ++ "forced" = ":forced" := by decide
  cases hi with
  | true =>
    cases forced with
    | true => exact absurd ⟨rfl, rfl⟩ hone
    | false =>
      rw [Tag.display, if_pos rfl, ← hmark, ← String.append_assoc, h.parse_modified isCode_hi]
      simp
  | false =>
    cases forced with
    | true =>
      rw [Tag.display, if_neg (by simp), if_pos rfl, ← hforcedMark, ← String.append_assoc,
        h.parse_modified isCode_forced]
      simp
    | false =>
      rw [Tag.display, if_neg (by simp), if_neg (by simp), String.append_empty, h.parse_eq]

end Subtitling.Language
