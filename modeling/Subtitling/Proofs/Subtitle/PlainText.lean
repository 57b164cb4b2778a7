import Mathlib.Data.List.Forall2
import Subtitling.Proofs.Text.Lines
import Subtitling.Proofs.Text.Markup
import Subtitling.Subtitle.Cue

/-!
What is left of a cue's text for translation: line by line the text without its tags, and without
the blanks that stood at the ends of a line or are there now that a tag is gone.
-/

namespace Subtitling.Subtitle

/-- What a line shows: nothing of its tags, and no blanks around the rest. -/
structure Shows (line shown : List Char) : Prop where
  /-- Next to what is shown, only blanks are left of the line when its tags are gone. -/
  untagged : ∃ front back, Text.Untagged line (front ++ shown ++ back) ∧
    (∀ c ∈ front, Text.isBlank c = true) ∧ ∀ c ∈ back, Text.isBlank c = true
  isTrimmed : Text.IsTrimmed shown
  no_angle_tag : ¬ ['<', '>'].Sublist shown
  no_curly_tag : ¬ ['\x7b', '\x7d'].Sublist shown

theorem shows_plainLine (line : List Char) : Shows line (plainLine line) := by
  have huntagged := Text.untagged_stripTags line
  obtain ⟨front, back, hends, hfront, hback⟩ := Text.exists_append_trim_append (Text.stripTags line)
  have hpart : plainLine line <:+: Text.stripTags line := ⟨front, back, hends.symm⟩
  have hno (opener closer : Char) (hcloser : Text.tagCloser? opener = some closer) :
      ¬ [opener, closer].Sublist (plainLine line) := fun htag =>
    huntagged.not_sublist hcloser (htag.trans hpart.sublist)
  exact {
    untagged := ⟨front, back, hends ▸ huntagged, hfront, hback⟩
    isTrimmed := Text.isTrimmed_trim _
    no_angle_tag := hno '<' '>' rfl
    no_curly_tag := hno '\x7b' '\x7d' rfl }

/-- What a line shows is told by its tags and its blanks alone. -/
theorem shows_iff (line shown : List Char) : Shows line shown ↔ plainLine line = shown := by
  constructor
  · intro h
    obtain ⟨front, back, huntagged, hfront, hback⟩ := h.untagged
    rw [plainLine, (Text.stripTags_eq_iff line _).mpr huntagged,
      Text.trim_append_blanks _ back hback, Text.trim_blanks_append front shown hfront,
        Text.trim_of_isTrimmed shown h.isTrimmed]
  · rintro rfl
    exact shows_plainLine line

theorem not_mem_plainLine (line : List Char) (h : '\n' ∉ line) :
    '\n' ∉ plainLine line := fun hfeed =>
  h ((Text.untagged_stripTags line).sublist.mem (Text.mem_of_mem_trim _ '\n' hfeed))

/-- The plain text of a cue is what its lines show, line for line; unless there are none, they
are told apart again by the line feeds. -/
theorem plainText_shows_lines (c : Cue) : ∃ shown : List (List Char),
    List.Forall₂ Shows (Text.lines c.text.toList) shown ∧
      (∀ other, List.Forall₂ Shows (Text.lines c.text.toList) other → other = shown) ∧
      c.plainText = String.ofList (Text.joinLines shown) ∧
      (shown = [] ∨ Text.splitWhen (· == '\n') c.plainText.toList = shown) := by
  refine ⟨(Text.lines c.text.toList).map plainLine, ?_, fun other hother => ?_, rfl, ?_⟩
  · exact List.forall₂_map_right_iff.mpr (List.forall₂_same.mpr fun line _ => shows_plainLine line)
  · have heq := hother.imp fun line shown => (shows_iff line shown).mp
    rw [← List.forall₂_map_left_iff, List.forall₂_eq_eq_eq] at heq
    exact heq.symm
  · have hfeeds : ∀ shown ∈ (Text.lines c.text.toList).map plainLine, '\n' ∉ shown := by
      intro shown hshown
      obtain ⟨line, hline, rfl⟩ := List.mem_map.mp hshown
      exact not_mem_plainLine line (Text.not_mem_of_mem_lines _ line hline)
    rw [Cue.plainText, String.toList_ofList]
    cases hlines : (Text.lines c.text.toList).map plainLine with
    | nil => exact .inl rfl
    | cons first others =>
      rw [hlines] at hfeeds
      exact .inr (Text.splitWhen_joinLines first others hfeeds)

end Subtitling.Subtitle
