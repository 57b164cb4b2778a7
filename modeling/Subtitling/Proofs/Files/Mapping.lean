import Subtitling.Files.Mapping
import Subtitling.Proofs.Files.AtomicWrite

/-!
Which rule decides on a path, and what it makes of it. A rule knows the front of a path's text
and nothing of directories: it fits whatever stands behind that front, so that only a source that
ends in a separator keeps to the directory it names. The separators of a mapped path are those of
the target, which is why a path in the catalog's style comes back by the reversed rule.
-/

namespace Subtitling.Files

/-- A rule fits the paths that begin with its source, if that is not empty. -/
def MappingRule.Fits (rule : MappingRule) (path : String) : Prop :=
  rule.source ≠ "" ∧ rule.source.toList <+: path.toList

instance (rule : MappingRule) (path : String) : Decidable (rule.Fits path) :=
  inferInstanceAs (Decidable (_ ∧ _))

def MappingRule.restyled (rule : MappingRule) (cs : List Char) : List Char :=
  if rule.usesBackslash then replaceChar '/' '\\' cs else replaceChar '\\' '/' cs

/-- The target in place of the source, and the target's separators throughout. -/
def MappingRule.image (rule : MappingRule) (path : String) : String :=
  String.ofList (rule.restyled (rule.target.toList ++ path.toList.drop rule.source.toList.length))

theorem MappingRule.mapped_eq (rule : MappingRule) (path : String) :
    rule.mapped? path = if rule.Fits path then some (rule.image path) else none := by
  simp only [mapped?, Fits, image, restyled, Bool.or_eq_true, List.isEmpty_iff, Bool.not_eq_true',
    ← Bool.not_eq_true, List.isPrefixOf_iff_prefix, String.toList_eq_nil_iff]
  by_cases hempty : rule.source = ""
  · simp [hempty]
  · by_cases hfront : rule.source.toList <+: path.toList
    · simp [hempty, hfront]
    · simp [hempty, hfront]

theorem MappingRule.image_of_append (rule : MappingRule) (path : String) (rest : List Char)
    (h : path.toList = rule.source.toList ++ rest) :
    rule.image path = String.ofList (rule.restyled (rule.target.toList ++ rest)) := by
  rw [image, h, List.drop_left]

theorem MappingRule.Fits.of_prefix {rule : MappingRule} {path longer : String} (h : rule.Fits path)
    (hfront : path.toList <+: longer.toList) : rule.Fits longer :=
  ⟨h.1, h.2.trans hfront⟩

theorem MappingRule.Fits.source {rule : MappingRule} {path : String} (h : rule.Fits path) :
    rule.Fits rule.source :=
  ⟨h.1, List.prefix_refl _⟩

/-- The rule that decides on a path: it fits, and none in front of it does. -/
def Decides (rules : List MappingRule) (path : String) (rule : MappingRule) : Prop :=
  ∃ before after, rules = before ++ rule :: after ∧ rule.Fits path ∧
    ∀ other ∈ before, ¬ other.Fits path

theorem Decides.mem {rules : List MappingRule} {path : String} {rule : MappingRule}
    (h : Decides rules path rule) : rule ∈ rules := by
  obtain ⟨before, after, rfl, -⟩ := h
  simp

theorem Decides.fits {rules : List MappingRule} {path : String} {rule : MappingRule}
    (h : Decides rules path rule) : rule.Fits path := by
  obtain ⟨-, -, -, hfits, -⟩ := h
  exact hfits

theorem exists_decides {rules : List MappingRule} {path : String} {rule : MappingRule}
    (hmem : rule ∈ rules) (hfits : rule.Fits path) : ∃ first, Decides rules path first := by
  induction rules with
  | nil => cases hmem
  | cons next rest ih =>
    by_cases hnext : next.Fits path
    · exact ⟨next, [], rest, rfl, hnext, by simp⟩
    · have hrest : rule ∈ rest := by
        rcases List.mem_cons.mp hmem with rfl | hrest
        · exact absurd hfits hnext
        · exact hrest
      obtain ⟨first, before, after, rfl, hfirst, hbefore⟩ := ih hrest
      refine ⟨first, next :: before, after, rfl, hfirst, ?_⟩
      simpa [hnext] using hbefore

/-- Of two rules that decide, each fitting the other's path, none stands in front of the other. -/
theorem Decides.eq {rules : List MappingRule} {path other : String} {rule first : MappingRule}
    (hrule : Decides rules path rule) (hfirst : Decides rules other first)
    (hother : rule.Fits other) (hpath : first.Fits path) : first = rule := by
  obtain ⟨before, after, hrules, -, hbefore⟩ := hrule
  obtain ⟨earlier, later, rfl, -, hearlier⟩ := hfirst
  rcases List.append_eq_append_iff.mp
    hrules with ⟨between, rfl, hbetween⟩ | ⟨between, rfl, hbetween⟩
  · cases between with
    | nil => exact (List.cons.inj hbetween).1
    | cons next more =>
      obtain ⟨rfl, -⟩ := List.cons.inj hbetween
      exact absurd hpath (hbefore first (by simp))
  · cases between with
    | nil => exact (List.cons.inj hbetween).1.symm
    | cons next more =>
      obtain ⟨rfl, -⟩ := List.cons.inj hbetween
      exact absurd hother (hearlier rule (by simp))

theorem Mappings.map_of_decides {m : Mappings} {kind : Media.Kind} {path : String}
    {rule : MappingRule} (h : Decides (m.rules kind) path rule) :
    m.map kind path = rule.image path := by
  obtain ⟨before, after, hrules, hfits, hbefore⟩ := h
  have hnone : before.findSome? (·.mapped? path) = none := by
    rw [List.findSome?_eq_none_iff]
    intro other hother
    rw [MappingRule.mapped_eq, if_neg (hbefore other hother)]
  have hsome : rule.mapped? path = some (rule.image path) := by
    rw [MappingRule.mapped_eq, if_pos hfits]
  rw [map, hrules, List.findSome?_append, hnone, List.findSome?_cons, hsome]
  rfl

theorem Mappings.map_of_none {m : Mappings} {kind : Media.Kind} {path : String}
    (h : ∀ rule ∈ m.rules kind, ¬ rule.Fits path) : m.map kind path = path := by
  have hnone : (m.rules kind).findSome? (·.mapped? path) = none := by
    rw [List.findSome?_eq_none_iff]
    intro rule hrule
    rw [MappingRule.mapped_eq, if_neg (h rule hrule)]
  rw [map, hnone]
  rfl

/-- A path is mapped by the rule that decides on it, or stays as it is. -/
theorem Mappings.map_cases (m : Mappings) (kind : Media.Kind) (path : String) :
    (∃ rule, Decides (m.rules kind) path rule ∧ m.map kind path = rule.image path) ∨
      ((∀ rule ∈ m.rules kind, ¬ rule.Fits path) ∧ m.map kind path = path) := by
  by_cases h : ∃ rule ∈ m.rules kind, rule.Fits path
  · obtain ⟨rule, hmem, hfits⟩ := h
    obtain ⟨first, hfirst⟩ := exists_decides hmem hfits
    exact .inl ⟨first, hfirst, map_of_decides hfirst⟩
  · have hnone : ∀ rule ∈ m.rules kind, ¬ rule.Fits path := by
      intro rule hmem hfits
      exact h ⟨rule, hmem, hfits⟩
    exact .inr ⟨hnone, map_of_none hnone⟩

def isSeparator (c : Char) : Bool := c = '/' || c = '\\'

def EndsInSeparator (text : String) : Prop := text.toList.getLast?.any isSeparator = true

/-- The source of a rule ends where a directory in the path does: it is the whole path, it ends in a
separator, or a separator stands behind it. -/
def MappingRule.MeetsBoundary (rule : MappingRule) (path : String) : Prop :=
  rule.source = path ∨ EndsInSeparator rule.source ∨
    (path.toList.drop rule.source.toList.length).head?.any isSeparator = true

instance (text : String) : Decidable (EndsInSeparator text) := inferInstanceAs (Decidable (_ = _))

instance (rule : MappingRule) (path : String) : Decidable (rule.MeetsBoundary path) :=
  inferInstanceAs (Decidable (_ ∨ _ ∨ _))

/-- Where all rules keep to boundaries, a rule that decides on its own source and does not end in a
separator leaves its source with one more letter to another such rule. -/
theorem Decides.exists_longer {rules : List MappingRule} {rule : MappingRule}
    (hkept : ∀ path first, Decides rules path first → first.MeetsBoundary path)
    (hown : Decides rules rule.source rule) (hends : ¬ EndsInSeparator rule.source) :
    ∃ longer, Decides rules longer.source longer ∧ ¬ EndsInSeparator longer.source ∧
      longer.source.toList.length = rule.source.toList.length + 1 := by
  let path := rule.source ++ "x"
  have hpath : path.toList = rule.source.toList ++ ['x'] := String.toList_append
  have hrule : rule.Fits path := hown.fits.of_prefix (hpath ▸ List.prefix_append _ _)
  obtain ⟨first, hfirst⟩ := exists_decides hown.mem hrule
  have hfront := hfirst.fits.2
  rw [hpath, List.prefix_concat_iff, ← hpath] at hfront
  rcases hfront with hlonger | hshorter
  · have hwhole : first.source = path := String.toList_inj.mp hlonger
    refine ⟨first, hwhole ▸ hfirst, ?_, by rw [hlonger, hpath, List.length_append]; rfl⟩
    rw [EndsInSeparator, hlonger, hpath, List.getLast?_concat]
    decide
  · obtain rfl := hown.eq hfirst hrule ⟨hfirst.fits.1, hshorter⟩
    rcases hkept path first hfirst with hsame | hseparator | hbehind
    · have hlength := congrArg (fun text => text.toList.length) hsame
      simp [hpath] at hlength
    · exact absurd hseparator hends
    · rw [hpath, List.drop_left] at hbehind
      exact absurd hbehind (by decide)

/-- The rules of a kind keep to the boundaries of directories, whatever the path, just where each
rule that decides on its own source has one that ends in a separator. -/
theorem meetsBoundary_iff (rules : List MappingRule) :
    (∀ path rule, Decides rules path rule → rule.MeetsBoundary path) ↔
      ∀ rule, Decides rules rule.source rule → EndsInSeparator rule.source := by
  constructor
  · intro hkept rule hown
    by_contra hends
    -- Step by step there would be ever longer sources, but the rules are finitely many.
    have hlong (n : Nat) : ∃ long, Decides rules long.source long ∧ ¬ EndsInSeparator long.source ∧
        n ≤ long.source.toList.length := by
      induction n with
      | zero => exact ⟨rule, hown, hends, Nat.zero_le _⟩
      | succ n ih =>
        obtain ⟨long, hlong, hlongEnds, hlength⟩ := ih
        obtain ⟨longer, hlonger, hlongerEnds, hmore⟩ := hlong.exists_longer hkept hlongEnds
        exact ⟨longer, hlonger, hlongerEnds, by omega⟩
    let bound := rules.foldl (fun n other => max n other.source.toList.length) 0
    obtain ⟨long, hdecides, -, hlength⟩ := hlong (bound + 1)
    have hbound : long.source.toList.length ≤ bound :=
      le_foldl_max (fun other : MappingRule => other.source.toList.length) rules 0 long hdecides.mem
    omega
  · rintro hends path rule ⟨before, after, hrules, hfits, hbefore⟩
    refine .inr (.inl (hends rule ⟨before, after, hrules, hfits.source, ?_⟩))
    exact fun other hother hsource => hbefore other hother (hsource.of_prefix hfits.2)

/-- Only a rule that decides on a path changes it, and what stands behind its source goes on
behind its target, be it a directory below or the rest of a name. No name is ever cut just where
each rule that decides on its own source has one that ends in a separator. -/
theorem only_deciding_rule_changes (m : Mappings) (kind : Media.Kind) :
    (∀ path, m.map kind path ≠ path → ∃ rule, Decides (m.rules kind) path rule) ∧
    (∀ path rule rest, Decides (m.rules kind) path rule → path.toList = rule.source.toList ++ rest →
      m.map kind path = String.ofList (rule.restyled (rule.target.toList ++ rest))) ∧
    ((∀ path rule, Decides (m.rules kind) path rule → rule.MeetsBoundary path) ↔
      ∀ rule, Decides (m.rules kind) rule.source rule → EndsInSeparator rule.source) := by
  refine ⟨fun path hchanged => ?_, fun path rule rest hdecides hpath => ?_,
    meetsBoundary_iff (m.rules kind)⟩
  · rcases m.map_cases kind path with ⟨rule, hdecides, -⟩ | ⟨-, hsame⟩
    · exact ⟨rule, hdecides⟩
    · exact absurd hsame hchanged
  · rw [Mappings.map_of_decides hdecides, rule.image_of_append path rest hpath]

/-- A directory whose name only begins with a source is mapped, too, though a later rule is for
just that one. -/
theorem only_deciding_rule_changes_series :
    let m : Mappings :=
      ⟨[⟨"", "/none"⟩, ⟨"/tv/", "/mnt/tv/"⟩, ⟨"/tv", "D:\\tv"⟩, ⟨"/tvshows", "/shows"⟩], []⟩
    m.map .episode "/tvshows/a.srt" = "D:\\tvshows\\a.srt" ∧
      ∃ rule, Decides (m.rules .episode) "/tvshows/a.srt" rule := by
  intro m
  have hdecides : Decides (m.rules .episode) "/tvshows/a.srt" ⟨"/tv", "D:\\tv"⟩ :=
    ⟨[⟨"", "/none"⟩, ⟨"/tv/", "/mnt/tv/"⟩], [⟨"/tvshows", "/shows"⟩], rfl, by decide, by decide⟩
  obtain ⟨hchanged, himage, -⟩ := only_deciding_rule_changes m .episode
  have hmap := himage "/tvshows/a.srt" _ "shows/a.srt".toList hdecides (by decide)
  exact ⟨hmap.trans (by decide), hchanged _ (by rw [hmap]; decide)⟩

/-- A rule for one directory maps the directory next to it, whose name only begins in the same
way. -/
theorem neighbour_is_mapped :
    let m : Mappings := ⟨[⟨"tv", "mnt/tv"⟩], []⟩
    m.map .episode "tvshows/a.en.srt" = "mnt/tvshows/a.en.srt" ∧
      ∀ rule ∈ m.rules .episode, ¬ rule.MeetsBoundary "tvshows/a.en.srt" := by
  decide

theorem not_mem_replaceChar (old new : Char) (cs : List Char) (h : old ≠ new) :
    old ∉ replaceChar old new cs := by
  rw [replaceChar, List.mem_map]
  rintro ⟨c, -, hc⟩
  split at hc
  · exact h hc.symm
  · rename_i hkept
    exact hkept hc

theorem replaceChar_of_not_mem (old new : Char) (cs : List Char) (h : old ∉ cs) :
    replaceChar old new cs = cs := by
  have hkept : ∀ c ∈ cs, (if c = old then new else c) = c := by
    intro c hc
    have hne : c ≠ old := fun heq => h (heq ▸ hc)
    exact if_neg hne
  rw [replaceChar, List.map_congr_left hkept, List.map_id']

/-- A character that does not occur can be put in place of another and taken back. -/
theorem replaceChar_replaceChar (old new : Char) (cs : List Char) (h : new ∉ cs) :
    replaceChar new old (replaceChar old new cs) = cs := by
  induction cs with
  | nil => rfl
  | cons c rest ih =>
    rw [List.mem_cons, not_or] at h
    have hrest := ih h.2
    simp only [replaceChar, List.map_cons, List.cons.injEq] at hrest ⊢
    refine ⟨?_, hrest⟩
    by_cases hold : c = old
    · simp [hold]
    · simp [hold, Ne.symm h.1]

namespace MappingRule

variable (rule : MappingRule)

theorem usesBackslash_iff : rule.usesBackslash = true ↔
    '\\' ∈ rule.target.toList ∧ '/' ∉ rule.target.toList := by
  simp [usesBackslash]

/-- A mapped path has the separators of its target alone. -/
theorem not_mem_image (path : String) :
    if '\\' ∈ rule.target.toList ∧ '/' ∉ rule.target.toList then '/' ∉ (rule.image path).toList
    else '\\' ∉ (rule.image path).toList := by
  simp only [← usesBackslash_iff, image, restyled, String.toList_ofList]
  split
  · exact not_mem_replaceChar '/' '\\' _ (by decide)
  · exact not_mem_replaceChar '\\' '/' _ (by decide)

def reversed : MappingRule := ⟨rule.target, rule.source⟩

theorem restyled_append (front back : List Char) :
    rule.restyled (front ++ back) = rule.restyled front ++ rule.restyled back := by
  simp only [restyled, replaceChar]
  split
  · exact List.map_append
  · exact List.map_append

/-- A target of one style is not changed by it. -/
theorem restyled_target (h : ¬ ('/' ∈ rule.target.toList ∧ '\\' ∈ rule.target.toList)) :
    rule.restyled rule.target.toList = rule.target.toList := by
  rw [restyled]
  split
  · rename_i hback
    exact replaceChar_of_not_mem _ _ _ (rule.usesBackslash_iff.mp hback).2
  · rename_i hback
    rw [usesBackslash_iff] at hback
    exact replaceChar_of_not_mem _ _ _ fun hmem => by tauto

/-- What is restyled for a target is restyled back for a source without backslashes. -/
theorem reversed_restyled (cs : List Char) (hsource : '\\' ∉ rule.source.toList) (h : '\\' ∉ cs) :
    rule.reversed.restyled (rule.restyled cs) = cs := by
  have hback : rule.reversed.usesBackslash = false := by
    rw [← Bool.not_eq_true, usesBackslash_iff]
    exact fun hmem => hsource hmem.1
  rw [restyled, hback, restyled, if_neg (by simp)]
  split
  · exact replaceChar_replaceChar '/' '\\' cs h
  · rw [replaceChar_of_not_mem _ _ cs h, replaceChar_of_not_mem _ _ cs h]

/-- A path without backslashes comes back from a target of one style. -/
theorem reversed_image (path : String) (hfits : rule.Fits path) (htarget : rule.target ≠ "")
    (hstyle : ¬ ('/' ∈ rule.target.toList ∧ '\\' ∈ rule.target.toList))
    (hpath : '\\' ∉ path.toList) :
    rule.reversed.Fits (rule.image path) ∧ rule.reversed.image (rule.image path) = path := by
  obtain ⟨-, rest, hrest⟩ := hfits
  rw [← hrest, List.mem_append, not_or] at hpath
  have himage : (rule.image path).toList = rule.target.toList ++ rule.restyled rest := by
    rw [rule.image_of_append path rest hrest.symm, String.toList_ofList, restyled_append,
      restyled_target rule hstyle]
  refine ⟨⟨htarget, himage ▸ List.prefix_append _ _⟩, ?_⟩
  have hsource : rule.reversed.restyled rule.reversed.target.toList = rule.source.toList :=
    rule.reversed.restyled_target fun hmem => hpath.1 hmem.2
  rw [rule.reversed.image_of_append _ _ himage, restyled_append,
    reversed_restyled rule rest hpath.1 hpath.2, hsource, hrest, String.ofList_toList]

end MappingRule

/-- The first rule of a kind that fits a path decides on it, and the rules of the other kind have
no say; a path that none fits stays as it is. A mapped path has the separators of its target
alone, and where the target is written in one style, a path without backslashes comes back by
rules that begin with the reversed one. -/
theorem map_by_first_fitting_rule (m : Mappings) (kind : Media.Kind) (path : String) :
    ((∃ rule, Decides (m.rules kind) path rule ∧ m.map kind path = rule.image path ∧
        if '\\' ∈ rule.target.toList ∧ '/' ∉ rule.target.toList then '/' ∉ (m.map kind path).toList
        else '\\' ∉ (m.map kind path).toList) ∨
      ((∀ rule ∈ m.rules kind, ¬ rule.Fits path) ∧ m.map kind path = path)) ∧
    (∀ other : Mappings, other.rules kind = m.rules kind → other.map kind path = m.map kind path) ∧
    ∀ (back : Mappings) (rule : MappingRule)
    (more : List MappingRule), Decides (m.rules kind) path rule →
      rule.target ≠ "" → ¬ ('/' ∈ rule.target.toList ∧ '\\' ∈ rule.target.toList) →
        '\\' ∉ path.toList →
      back.rules kind = rule.reversed :: more → back.map kind (m.map kind path) = path := by
  refine ⟨?_, fun other hrules => ?_, fun back rule more hdecides htarget hstyle hpath hback => ?_⟩
  · rcases m.map_cases kind path with ⟨rule, hdecides, hmap⟩ | hnone
    · exact .inl ⟨rule, hdecides, hmap, hmap ▸ rule.not_mem_image path⟩
    · exact .inr hnone
  · rw [Mappings.map, Mappings.map, hrules]
  · obtain ⟨hreversed, himage⟩ := rule.reversed_image path hdecides.fits htarget hstyle hpath
    have hfirst : Decides (back.rules kind) (rule.image path) rule.reversed :=
      ⟨[], more, hback, hreversed, by simp⟩
    rw [Mappings.map_of_decides hdecides, Mappings.map_of_decides hfirst, himage]

/-- A share with a drive letter: the second rule decides, and its reverse leads back past a rule
for the rest. -/
theorem map_by_first_fitting_rule_drive :
    let m : Mappings :=
      ⟨[⟨"/tv/Show/", "/mnt/"⟩, ⟨"/tv", "D:\\tv"⟩, ⟨"/", "E:\\"⟩], [⟨"/tv", "/films"⟩]⟩
    let back : Mappings := ⟨[⟨"D:\\tv", "/tv"⟩, ⟨"D:\\", "/"⟩], []⟩
    m.map .episode "/tv/tv/a.srt" = "D:\\tv\\tv\\a.srt" ∧
      back.map .episode (m.map .episode "/tv/tv/a.srt") = "/tv/tv/a.srt" := by
  intro m back
  have hdecides : Decides (m.rules .episode) "/tv/tv/a.srt" ⟨"/tv", "D:\\tv"⟩ :=
    ⟨[⟨"/tv/Show/", "/mnt/"⟩], [⟨"/", "E:\\"⟩], rfl, by decide, by decide⟩
  obtain ⟨-, -, hback⟩ := map_by_first_fitting_rule m .episode "/tv/tv/a.srt"
  exact ⟨by decide, hback back _ _ hdecides (by decide) (by decide) (by decide) rfl⟩

end Subtitling.Files
