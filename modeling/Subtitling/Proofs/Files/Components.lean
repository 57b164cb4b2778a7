import Subtitling.Proofs.Files.Path

/-!
The components of a path: what is left of its pieces without those that name nothing. Two paths
with the same components are one path in two spellings. A path has the components of its parent
and its own name, and joining puts the components of one path behind those of another.
-/

namespace Subtitling.Files.Path

/-- The components among pieces. A slash in front stands for the root, and a dot in front for the
place itself. -/
def componentsOf : List String → List String
  | [] => []
  | front :: rest =>
    (if front.isEmpty then (if rest.isEmpty then [] else ["/"]) else [front]) ++
      rest.filter fun piece => !isIdle piece

def components (path : String) : List String := componentsOf (pieces path)

def IsChildOf (path dir : String) : Prop := ∃ name, components path = components dir ++ [name]

theorem isEmpty_of_isIdle {piece : String} (h : isIdle piece = false) : piece.isEmpty = false := by
  rw [isIdle, Bool.or_eq_false_iff] at h
  exact h.1

/-- Behind other pieces, a piece is a component unless it names nothing. -/
theorem componentsOf_append (front more : List String) (hfront : front ≠ [])
    (hroot : front ≠ [""]) :
    componentsOf (front ++ more) = componentsOf front ++ more.filter fun piece =>
      !isIdle piece := by
  obtain ⟨first, rest, rfl⟩ := List.exists_cons_of_ne_nil hfront
  rw [List.cons_append, componentsOf, componentsOf, List.filter_append, List.append_assoc]
  cases hempty : first.isEmpty with
  | false => rfl
  | true =>
    have hrest : rest ≠ [] := by
      rintro rfl
      exact hroot (by rw [String.isEmpty_iff.mp hempty])
    have hboth : (rest ++ more).isEmpty = false := by simp [hrest]
    have halone : rest.isEmpty = false := by simp [hrest]
    rw [hboth, halone]

theorem componentsOf_root (more : List String) (hmore : more ≠ []) :
    componentsOf ("" :: more) = "/" :: more.filter fun piece => !isIdle piece := by
  have hfull : more.isEmpty = false := by simp [hmore]
  rw [componentsOf, hfull]
  rfl

theorem componentsOf_name (first : String) (more : List String) (hfirst : isIdle first = false) :
    componentsOf (first :: more) = (first :: more).filter fun piece => !isIdle piece := by
  rw [componentsOf, isEmpty_of_isIdle hfirst, List.filter_cons_of_pos (by simp [hfirst])]
  rfl

/-- A name is one component. -/
theorem components_of_not_mem (path : String) (hslash : '/' ∉ path.toList)
    (hname : isIdle path = false) :
    components path = [path] := by
  rw [components, pieces_of_not_mem path hslash, componentsOf_name path [] hname]
  exact List.filter_cons_of_pos (by simp [hname])

theorem filter_of_idle (pieces : List String) (h : ∀ piece ∈ pieces, isIdle piece = true) :
    (pieces.filter fun piece => !isIdle piece) = [] := by
  rw [List.filter_eq_nil_iff]
  intro piece hpiece
  simp [h piece hpiece]

/-- A path is absolute just where its first piece is empty and others follow it, which is what
its first slash comes to. -/
theorem isAbsolute_iff (path : String) :
    isAbsolute path = true ↔ ∃ more, more ≠ [] ∧ pieces path = "" :: more := by
  rw [isAbsolute, beq_iff_eq]
  constructor
  · intro hhead
    obtain ⟨rest, hrest⟩ := List.head?_eq_some_iff.mp hhead
    have hpath : path = "" ++ "/" ++ String.ofList rest := by
      rw [← String.toList_inj, hrest]
      simp
    refine ⟨pieces (String.ofList rest), pieces_ne_nil _, ?_⟩
    rw [hpath, pieces_append, pieces_of_not_mem "" (by decide)]
    rfl
  · rintro ⟨more, hmore, hpieces⟩
    obtain ⟨others, hfirst⟩ := exists_pieces_eq path
    rw [hpieces, List.cons.injEq] at hfirst
    cases hchars : path.toList with
    | nil =>
      obtain rfl : path = "" := String.toList_eq_nil_iff.mp hchars
      rw [pieces_of_not_mem "" (by decide), List.cons.injEq] at hpieces
      exact absurd hpieces.2.symm hmore
    | cons c rest =>
      by_cases hc : c = '/'
      · rw [hc, List.head?_cons]
      · have hempty := hfirst.1
        rw [hchars, List.takeWhile_cons_of_pos (by simpa using hc)] at hempty
        simp at hempty

section

variable (dir path first : String) (more : List String) (hpieces : pieces path = first :: more)
  (hfirst : isIdle first = false)

include hpieces hfirst

theorem isAbsolute_of_name : isAbsolute path = false := by
  rw [Bool.eq_false_iff, ne_eq, isAbsolute_iff, hpieces]
  rintro ⟨others, -, hothers⟩
  rw [(List.cons.inj hothers).1] at hfirst
  exact absurd hfirst (by decide)

theorem components_of_name : components path = (pieces path).filter fun piece => !isIdle piece := by
  rw [components, hpieces, componentsOf_name first more hfirst]

/-- A path that begins with a name is put behind a directory component by component. A slash
between the two, whether it was there or is put there, adds no component. -/
theorem components_join : components (join dir path) = components dir ++ components path := by
  have hrelative := isAbsolute_of_name path first more hpieces hfirst
  rw [components_of_name path first more hpieces hfirst]
  by_cases hdir : dir = ""
  · subst hdir
    have hjoin : join "" path = path := by simp [join]
    rw [hjoin, components_of_name path first more hpieces hfirst]
    rfl
  have hpath : pieces path ≠ [] := pieces_ne_nil path
  rcases pieces_join_of_relative dir path hdir hrelative with hjoin | ⟨front, hfront, hjoin⟩
  · rw [components, components, hjoin]
    apply componentsOf_append _ _ (pieces_ne_nil dir)
    intro hroot
    have hempty := ofPieces_pieces dir
    rw [hroot] at hempty
    exact hdir hempty.symm
  · rw [components, components, hjoin, hfront]
    cases front with
    | nil =>
      have hempty := ofPieces_pieces dir
      rw [hfront] at hempty
      exact absurd hempty.symm hdir
    | cons front others =>
      by_cases hroot : front = "" ∧ others = []
      · obtain ⟨rfl, rfl⟩ := hroot
        exact componentsOf_root _ hpath
      · have hne : front :: others ≠ [""] := by simpa using hroot
        have hlast := filter_of_idle [""] (by simp [isIdle])
        rw [componentsOf_append _ (pieces path) (List.cons_ne_nil _ _) hne,
          componentsOf_append _ [""] (List.cons_ne_nil _ _) hne, hlast, List.append_nil]

/-- Between a name in front and a name at the end, a path is one component only if it has no
slash. -/
theorem components_eq_singleton_iff (before : List String) (last : String)
    (hlast : pieces path = before ++ [last]) (hname : isIdle last = false) :
    (∃ name, components path = [name]) ↔ '/' ∉ path.toList := by
  constructor
  · rintro ⟨name, hsingle⟩
    cases before with
    | nil =>
      have hpath := ofPieces_pieces path
      rw [hlast, List.nil_append, ofPieces, String.intercalate_singleton] at hpath
      exact hpath ▸ not_mem_of_mem_pieces path last (by simp [hlast])
    | cons front rest =>
      obtain rfl : first = front := (List.cons.inj (hpieces.symm.trans hlast)).1
      rw [components_of_name path first more hpieces hfirst, hlast, List.filter_append,
        List.filter_cons_of_pos (by simp [hfirst]),
          List.filter_cons_of_pos (by simp [hname])] at hsingle
      simp at hsingle
  · intro hslash
    rw [pieces_of_not_mem path hslash] at hpieces
    obtain ⟨rfl, -⟩ := List.cons.inj hpieces
    exact ⟨path, components_of_not_mem path hslash hfirst⟩

end

/-- Where nothing is kept, there is nothing in front or an empty piece. -/
theorem of_dropIdle_eq_nil (parts : List String) (h : dropIdle parts = []) :
    parts = [] ∨ ∃ idles, parts = idles ++ [""] := by
  induction parts using dropIdle.induct with
  | case1 => exact .inl rfl
  | case2 front hempty => exact .inr ⟨[], by rw [String.isEmpty_iff.mp hempty, List.nil_append]⟩
  | case3 front hfull =>
    rw [dropIdle, if_neg hfull] at h
    cases h
  | case4 piece rest hrest hidle ih =>
    rw [dropIdle.eq_3 piece rest hrest, if_pos hidle] at h
    rcases ih h with rfl | ⟨idles, rfl⟩
    · exact absurd rfl hrest
    · exact .inr ⟨piece :: idles, rfl⟩
  | case5 piece rest hrest hidle =>
    rw [dropIdle.eq_3 piece rest hrest, if_neg hidle] at h
    cases h

/-- What is named last in a path is a name, and only pieces that name nothing stand behind it. -/
theorem pieces_of_fileName (path name : String) (h : fileName? path = some name) :
    ∃ before idles, named path = name :: before ∧ pieces path = before.reverse ++ name :: idles ∧
      isIdle name = false ∧ ∀ piece ∈ idles, isIdle piece = true := by
  rw [fileName?] at h
  split at h
  · cases h
  rename_i last before hnamed
  split at h
  · cases h
  rename_i hplain
  obtain rfl := Option.some.inj h
  obtain ⟨idles, hidles, hall, hfirst⟩ := exists_dropIdle (pieces path).reverse
  have hlast : isIdle last = false := by
    rcases hfirst last before hnamed with hlast | ⟨hdot, -⟩
    · exact hlast
    · exact absurd hdot (by simpa using (by simpa using hplain : _ ∧ _).1)
  rw [← named, hnamed] at hidles
  refine ⟨before, idles.reverse, hnamed, ?_, hlast,
    fun piece hpiece => hall piece (List.mem_reverse.mp hpiece)⟩
  rw [← List.reverse_reverse (pieces path), hidles]
  simp

/-- A path that ends in a name has the components of what it lies in, and that name behind them.
The pieces behind the name and those between it and the next component name nothing, so taking
them away takes no component. -/
theorem parent_of_fileName (path name : String) (h : fileName? path = some name) :
    ∃ dir, parent? path = some dir ∧ components path = components dir ++ [name] := by
  obtain ⟨before, idles, hnamed, hpieces, hname, hidles⟩ := pieces_of_fileName path name h
  have hbehind (between : List String) (hbetween : ∀ piece ∈ between, isIdle piece = true) :
      ((between ++ name :: idles).filter fun piece => !isIdle piece) = [name] := by
    rw [List.filter_append, filter_of_idle between hbetween,
      List.filter_cons_of_pos (by simp [hname]), filter_of_idle idles hidles, List.nil_append]
  rw [parent?, hnamed]
  simp only
  obtain ⟨above, habove, hallabove, hfirst⟩ := exists_dropIdle before
  cases hdrop : dropIdle before with
  | nil =>
    refine ⟨_, rfl, ?_⟩
    rcases of_dropIdle_eq_nil before hdrop with rfl | ⟨between, rfl⟩
    · have hrelative := isAbsolute_of_name path name idles hpieces hname
      rw [hrelative, components_of_name path name idles hpieces hname, hpieces]
      exact hbehind [] (by simp)
    · have hroot : pieces path = "" :: (between.reverse ++ name :: idles) := by simpa using hpieces
      have habsolute : isAbsolute path = true := (isAbsolute_iff path).mpr ⟨_, by simp, hroot⟩
      have hbetween (piece : String) (hpiece : piece ∈ between.reverse) : isIdle piece = true := by
        rw [hdrop, List.append_nil] at habove
        exact hallabove piece (habove ▸ List.mem_append_left _ (List.mem_reverse.mp hpiece))
      rw [habsolute, components, hroot, componentsOf_root _ (by simp), hbehind _ hbetween]
      rfl
  | cons top rest =>
    have hfront : (top :: rest).reverse ≠ [""] := by
      intro hempty
      obtain ⟨rfl, rfl⟩ := List.cons.inj (List.reverse_eq_iff.mp hempty)
      rcases hfirst "" [] hdrop with hidle | ⟨hdot, -⟩
      · exact absurd hidle (by decide)
      · exact absurd hdot (by decide)
    have hsplit : pieces path = (top :: rest).reverse ++ (above.reverse ++ name :: idles) := by
      rw [hpieces, habove, hdrop, List.reverse_append, List.append_assoc]
    have hdir : pieces (ofPieces (top :: rest).reverse) = (top :: rest).reverse := by
      apply pieces_ofPieces _ (by simp)
      intro piece hpiece
      exact not_mem_of_mem_pieces path piece (by rw [hsplit]; exact List.mem_append_left _ hpiece)
    refine ⟨_, rfl, ?_⟩
    rw [components, components, hdir, hsplit, componentsOf_append _ _ (by simp) hfront,
      hbehind _ fun piece hpiece => hallabove piece (List.mem_reverse.mp hpiece)]

/-- A stem is a front of its name, and no name is all extension. -/
theorem exists_stem (name : String) (hname : name ≠ "") :
    (splitExtension name).1 ≠ "" ∧ (splitExtension name).1.toList <+: name.toList := by
  rw [splitExtension]
  split
  · exact ⟨hname, List.prefix_refl _⟩
  · exact ⟨hname, List.prefix_refl _⟩
  · rename_i dot stem hlong hdrop
    have hchars : name.toList.reverse = name.toList.reverse.takeWhile (· ≠ '.') ++ dot :: stem := by
      rw [← hdrop, List.takeWhile_append_dropWhile]
    refine ⟨?_, ?_⟩
    · intro hempty
      rw [← String.toList_inj, String.toList_ofList] at hempty
      exact hlong (by simpa using hempty)
    · rw [String.toList_ofList, ← List.reverse_suffix, List.reverse_reverse, hchars]
      exact (List.suffix_cons dot stem).trans (List.suffix_append _ _)

theorem stem_of_fileName (path name : String) (h : fileName? path = some name) :
    ∃ stem, stem? path = some stem ∧ stem ≠ "" ∧ stem.toList <+: name.toList ∧
      '/' ∉ stem.toList := by
  obtain ⟨before, idles, -, hpieces, hname, -⟩ := pieces_of_fileName path name h
  have hfull : name ≠ "" := by
    rintro rfl
    exact absurd hname (by decide)
  obtain ⟨hstem, hfront⟩ := exists_stem name hfull
  refine ⟨_, by rw [stem?, h]; rfl, hstem, hfront, fun hslash => ?_⟩
  exact not_mem_of_mem_pieces path name (by simp [hpieces]) (hfront.subset hslash)

end Subtitling.Files.Path
