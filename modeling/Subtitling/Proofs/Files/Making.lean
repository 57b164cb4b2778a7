import Subtitling.Proofs.Files.AtomicWrite
import Subtitling.Proofs.Files.Denoting

/-!
What making directories and writing come to where the path denotes a place. Those directories are
made that are missing above it, and no others; then the disk may fail at any step, and a
directory at the place itself is in the way, but nothing else can go wrong.
-/

namespace Subtitling.Files

open Files.Tree (pieceLeads startPieces isTooLong)
open Files.Path (isIdle)

/-- The front of a path starts where the path does. -/
theorem startPieces_ofPieces (path : String) (start : Location) (most more : List String)
    (last : String) (hlast : last ≠ "") (hmore : more ≠ [])
    (h : startPieces path = .ok (start, most ++ [last] ++ more)) :
    startPieces (Path.ofPieces (most ++ [last])) = .ok (start, most ++ [last]) := by
  simp only [startPieces] at h
  split at h
  · cases h
  split at h
  · cases h
  rename_i hnul
  split at h
  · cases h
  rename_i hlong
  obtain ⟨hstart, hpieces⟩ := Prod.mk.inj (Except.ok.inj h)
  obtain ⟨hpath, hfront⟩ :=
    Path.eq_append_of_pieces path (most ++ [last]) more hpieces (by simp) hmore
  have hnonempty : Path.ofPieces (most ++ [last]) ≠ "" := by
    intro hempty
    rw [hempty] at hfront
    have hsingle : [""] = most ++ [last] := hfront
    obtain ⟨-, hname⟩ := List.append_inj' (hsingle.symm.trans (List.nil_append [""]).symm) rfl
    exact hlast (List.cons.inj hname).1
  have habsolute : Path.isAbsolute (Path.ofPieces (most ++ [last])) = Path.isAbsolute path := by
    have hne : (Path.ofPieces (most ++ [last])).toList ≠ [] := by simpa using hnonempty
    obtain ⟨c, rest, hcons⟩ := List.exists_cons_of_ne_nil hne
    rw [hpath, Path.isAbsolute, Path.isAbsolute, String.toList_append, String.toList_append, hcons]
    rfl
  have hplain : (Path.ofPieces (most ++ [last])).toList.contains '\x00' = false := by
    rw [hpath] at hnul
    simp only [String.toList_append, List.contains_eq_mem, List.mem_append, decide_eq_true_eq,
      not_or] at hnul
    simp [hnul.1.1]
  have hshort : ¬ Tree.maxPathSize ≤ (Path.ofPieces (most ++ [last])).utf8ByteSize := by
    rw [hpath, String.utf8ByteSize_append, String.utf8ByteSize_append] at hlong
    omega
  simp only [startPieces, String.isEmpty_iff, hnonempty, hplain, hshort, habsolute, hstart, hfront,
    Bool.false_eq_true, if_false]

/-- A name behind some pieces denotes a place in the one that they denote. -/
theorem View.lead_name (look : View) (start place : Location) (before : List String) (name : String)
    (h : look.lead start (before ++ [name]) = .ok place) :
    ∃ parent, look.lead start before = .ok parent ∧
      (∀ content, look parent ≠ some (.file content)) ∧ (look parent = none → name ≠ "..") ∧
      pieceLeads parent name = .ok place := by
  obtain ⟨parent, hparent, hlast⟩ := (lead_append_eq_ok_iff start place before [name]).mp h
  obtain ⟨hfile, hback, next, hnext, hdone⟩ := (lead_cons_eq_ok_iff parent place name []).mp hlast
  obtain rfl := Except.ok.inj hdone
  exact ⟨parent, hparent, hfile, hback, hnext⟩

/-- The directories that are made lie in directories too. -/
theorem View.Grounded.withDirectories {look : View} (hlook : look.Grounded) (place : Location)
    (hfile : ∀ other, other <+: place → ∀ content, look other ≠ some (.file content)) :
    (look.withDirectories place).Grounded := by
  have hkept (other : Location) (hother : look other = some .directory) :
      look.withDirectories place other = some .directory := by
    rw [View.withDirectories, if_neg (by simp [hother]), hother]
  refine ⟨fun other hother => hkept other (hlook.above other hother), fun other name hthere => ?_⟩
  by_cases hmissing : look (other ++ [name]) = none
  · by_cases hunder : other ++ [name] <+: place
    · have hother := (List.prefix_append other [name]).trans hunder
      rw [View.withDirectories]
      split
      · rfl
      · rename_i hpresent
        cases hentry : look other with
        | none => exact absurd ⟨hentry, hother⟩ hpresent
        | some entry =>
          cases entry with
          | directory => rfl
          | file content => exact absurd hentry (hfile other hother content)
    · rw [View.withDirectories, if_neg (by simp [hunder]), hmissing] at hthere
      exact absurd rfl hthere
  · exact hkept other (hlook.inside other name hmissing)

theorem View.lead_withDirectories {look : View} (hlook : look.Grounded)
    (start place added : Location) (pieces : List String) (h : look.lead start pieces = .ok place) :
    (look.withDirectories added).lead start pieces = .ok place := by
  refine View.lead_of_view hlook start place pieces (fun other hother => ?_)
    (fun other _ hmissing content => ?_) h
  · rw [View.withDirectories, if_neg (by simp [hother]), hother]
  · rw [View.withDirectories]
    split
    · simp
    · simp [hmissing]

/-- A directory below one that is there is all that is missing. -/
theorem View.withDirectories_append (look : View) (parent : Location) (name : String)
    (hfree : look (parent ++ [name]) = none) (other : Location) :
    look.withDirectories (parent ++ [name]) other =
      if other = parent ++ [name] then some .directory else look.withDirectories parent other := by
  simp only [View.withDirectories, List.prefix_concat_iff]
  by_cases hother : other = parent ++ [name]
  · simp [hother, hfree]
  · simp [hother]

namespace Tree

section

variable (t : Tree) (path : String) (start : Location) (before : List String) (name : String)

theorem dropWhile_isEmpty_reverse (hname : isIdle name = false) :
    (before ++ [name]).reverse.dropWhile String.isEmpty = name :: before.reverse := by
  have hfull : name.isEmpty = false := (by simpa [isIdle] using hname : _ ∧ _).1
  rw [List.reverse_append, List.reverse_singleton, List.singleton_append,
    List.dropWhile_cons_of_neg (by simp [hfull])]

/-- Where the directory above is missing, nothing is made. -/
theorem makeDirectory_of_missing (hstart : startPieces path = .ok (start, before ++ [name]))
    (hname : isIdle name = false)
    (hparent : t.walk start before = .error .notFound ∨
      ∃ parent, t.walk start before = .ok parent ∧ t.lookup parent = none) :
    t.makeDirectory path = .error .notFound := by
  have hdrop := dropWhile_isEmpty_reverse before name hname
  simp only [makeDirectory, hstart, bind, Except.bind, hdrop, List.reverse_reverse]
  rcases hparent with hwalk | ⟨parent, hwalk, hnone⟩
  · simp only [hwalk]
  · simp only [hwalk, hnone]
    rfl

/-- What is there already is not made again. -/
theorem makeDirectory_of_there (parent : Location)
    (hstart : startPieces path = .ok (start, before ++ [name])) (hname : isIdle name = false)
    (hwalk : t.walk start before = .ok parent) (hparent : t.lookup parent = some .directory)
    (hthere : name = ".." ∨ isTooLong name = false ∧ t.lookup (parent ++ [name]) ≠ none) :
    t.makeDirectory path = .error .alreadyExists := by
  have hdrop := dropWhile_isEmpty_reverse before name hname
  have hdot : name ≠ "." := (by simpa [isIdle] using hname : _ ∧ _).2
  simp only [makeDirectory, hstart, bind, Except.bind, hdrop, List.reverse_reverse, hwalk, hparent]
  rcases hthere with hback | ⟨hshort, hentry⟩
  · simp only [hback, decide_true, Bool.or_true, if_true]
    rfl
  · obtain ⟨entry, hentry⟩ := Option.ne_none_iff_exists'.mp hentry
    by_cases hback : name = ".."
    · simp only [hback, decide_true, Bool.or_true, if_true]
      rfl
    · simp only [hdot, hback, hshort, hentry, decide_false, Bool.or_false, Bool.false_eq_true,
        if_false]
      rfl

theorem makeDirectory_of_free (parent : Location)
    (hstart : startPieces path = .ok (start, before ++ [name])) (hname : isIdle name = false)
    (hwalk : t.walk start before = .ok parent) (hparent : t.lookup parent = some .directory)
    (hback : name ≠ "..") (hshort : isTooLong name = false)
    (hfree : t.lookup (parent ++ [name]) = none) :
    t.makeDirectory path = .ok (t.insert (parent ++ [name]) .directory) := by
  have hdrop := dropWhile_isEmpty_reverse before name hname
  have hdot : name ≠ "." := (by simpa [isIdle] using hname : _ ∧ _).2
  simp only [makeDirectory, hstart, bind, Except.bind, hdrop, List.reverse_reverse, hwalk, hparent,
    hdot, hback, hshort, hfree, decide_false, Bool.or_false, Bool.false_eq_true, if_false]
  rfl

end

variable (t : Tree)

theorem isDirectory_iff (hlook : View.Grounded t.lookup) (path : String) (place : Location)
    (h : View.denoted t.lookup path = .ok place) :
    t.isDirectory path = true ↔ t.lookup place = some .directory := by
  rw [isDirectory, find]
  rcases t.locate_of_denoted hlook path place h with hlocate | ⟨hlocate, hmissing⟩
  · rw [hlocate]
    cases hentry : t.lookup place with
    | none => simp [bind, Except.bind, hentry, throw, throwThe, MonadExceptOf.throw]
    | some entry => cases entry <;> simp [bind, Except.bind, hentry, pure, Except.pure]
  · rw [hlocate, hmissing]
    simp [bind, Except.bind]

theorem denoted_of_start (look : View) (path : String) (start : Location) (pieces : List String)
    (hstart : startPieces path = .ok (start, pieces)) :
    look.denoted path = look.lead start pieces := by
  rw [View.denoted, hstart]
  rfl

/-- Paths start in a directory that is always there. -/
theorem isAbove_start (path : String) (start : Location) (pieces : List String)
    (hstart : startPieces path = .ok (start, pieces)) :
    start.isAbove = true ∧ path.isEmpty = false ∧ pieces = Path.pieces path ∧
      start = if Path.isAbsolute path then root else [] := by
  simp only [startPieces] at hstart
  split at hstart
  · cases hstart
  rename_i hnonempty
  split at hstart
  · cases hstart
  split at hstart
  · cases hstart
  obtain ⟨hfrom, hpieces⟩ := Prod.mk.inj (Except.ok.inj hstart)
  refine ⟨?_, Bool.eq_false_iff.mpr hnonempty, hpieces.symm, hfrom.symm⟩
  rw [← hfrom]
  split <;> decide

theorem lookup_up (hlook : View.Grounded t.lookup) (place : Location)
    (h : t.lookup place = some .directory) : t.lookup place.up = some .directory := by
  rw [Location.up]
  split
  · exact hlook.above root (by decide)
  · rename_i hroot
    split
    · rename_i habove
      have hall : place.all (· = "..") = true := by simpa [Location.isAbove, hroot] using habove
      exact hlook.above _ (by simp [Location.isAbove, List.all_append, hall])
    · rename_i hbelow
      have hne : place ≠ [] := by
        rintro rfl
        exact hbelow (by decide)
      have hparts := List.dropLast_concat_getLast hne
      exact hlook.inside place.dropLast (place.getLast hne) (by simp [hparts, h])

section

variable (hlook : View.Grounded t.lookup) (parent place : Location) (last : String)
  (hnoFile : ∀ content, t.lookup parent ≠ some (.file content))
  (hback : t.lookup parent = none → last ≠ "..") (hplace : pieceLeads parent last = .ok place)
include hlook hnoFile hback hplace

/-- Where the place is there that a name or the way back leads to, so is where it leads from. -/
theorem lookup_parent (hlast : isIdle last = false) (hthere : t.lookup place = some .directory) :
    t.lookup parent = some .directory := by
  cases hparent : t.lookup parent with
  | none =>
    obtain ⟨rfl, -⟩ := View.pieceLeads_name parent place last hlast (hback hparent) hplace
    rw [hlook.missing_append parent last hparent] at hthere
    cases hthere
  | some entry =>
    cases entry with
    | directory => rfl
    | file content => exact absurd hparent (hnoFile content)

/-- The way back leads to nothing that is missing. -/
theorem ne_up_of_missing (hmissing : t.lookup place = none) : last ≠ ".." := by
  rintro rfl
  cases hparent : t.lookup parent with
  | none => exact hback hparent rfl
  | some entry =>
    cases entry with
    | file content => exact hnoFile content hparent
    | directory =>
      obtain rfl : parent.up = place := by simpa [pieceLeads] using hplace
      rw [t.lookup_up hlook parent hparent] at hmissing
      cases hmissing

end

/-- Once the directory that a path lies in has been made, so can be the one that it denotes.
Nothing is in the way of it, since only directories above it have been made meanwhile. -/
theorem exists_made (grown : Tree) (hlook : View.Grounded t.lookup) (path : String)
    (start parent : Location) (most : List String) (last : String)
    (hstart : startPieces path = .ok (start, most ++ [last])) (hlast : isIdle last = false)
    (hbefore : View.lead t.lookup start most = .ok parent)
    (hinside : ∀ other, other <+: parent → ∀ content, t.lookup other ≠ some (.file content))
    (hview : grown.lookup = View.withDirectories t.lookup parent) (hup : last ≠ "..")
    (hshort : isTooLong last = false) (hfree : t.lookup (parent ++ [last]) = none) :
    ∃ made, grown.makeDirectory path = .ok made ∧
      made.lookup = View.withDirectories t.lookup (parent ++ [last]) := by
  have hgrounded : View.Grounded grown.lookup := hview ▸ hlook.withDirectories parent hinside
  have hparent : grown.lookup parent = some .directory := by
    rw [hview, View.withDirectories_self parent (hinside parent (List.prefix_refl parent))]
  have hwalk : grown.walk start most = .ok parent := by
    have hagain : View.lead grown.lookup start most = .ok parent :=
      hview ▸ View.lead_withDirectories hlook start parent parent most hbefore
    exact grown.walk_of_lead_directory hgrounded start parent most hagain hparent
  have hstillFree : grown.lookup (parent ++ [last]) = none := by
    rw [hview, View.withDirectories_child, hfree]
  have hbelow := not_isAbove_of_lookup grown (parent ++ [last]) (by simp [hstillFree])
  refine ⟨grown.insert (parent ++ [last]) .directory,
    grown.makeDirectory_of_free path start most last
    parent hstart hlast hwalk hparent hup hshort hstillFree, ?_⟩
  funext other
  rw [View.withDirectories_append t.lookup parent last hfree]
  split
  · rename_i hother
    rw [hother, lookup_insert_self grown _ .directory hbelow]
  · rename_i hother
    rw [lookup_insert_of_ne grown _ other .directory hother, hview]

/-- A directory that is missing has a parent that ends in a name, since paths start in
directories that are there. -/
theorem exists_parent (hlook : View.Grounded t.lookup) (path : String) (start parent : Location)
    (most : List String) (last : String) (hstart : startPieces path = .ok (start, most ++ [last]))
    (hlast : isIdle last = false) (hbefore : View.lead t.lookup start most = .ok parent)
    (hmissing : t.lookup parent = none) :
    ∃ others name, isIdle name = false ∧ others.length < most.length ∧
      Path.parent? path = some (Path.ofPieces (others ++ [name])) ∧
      startPieces (Path.ofPieces (others ++ [name])) = .ok (start, others ++ [name]) ∧
      View.lead t.lookup start (others ++ [name]) = .ok parent := by
  obtain ⟨habove, -, hpieces, -⟩ := isAbove_start path start _ hstart
  have hidle (pieces : List String) (hall : ∀ i ∈ pieces, isIdle i = true)
      (hpieces : View.lead t.lookup start pieces = .ok parent) : False := by
    obtain rfl := View.lead_idle start parent pieces hall hpieces
    rw [hlook.above parent habove] at hmissing
    cases hmissing
  rcases Path.parent_cases path most last hpieces.symm hlast with
    ⟨-, hall⟩ | ⟨front, idles, rfl, hall, hparent, hfront⟩
  · exact (hidle most hall hbefore).elim
  obtain ⟨middle, hmiddle, hidles⟩ :=
    (View.lead_append_eq_ok_iff start parent front idles).mp hbefore
  obtain rfl := View.lead_idle middle parent idles hall hidles
  rcases hfront with rfl | ⟨others, name, rfl, hname⟩
  · refine (hidle ["."] (fun i hi => ?_) hmiddle).elim
    obtain rfl := List.mem_singleton.mp hi
    rfl
  · refine ⟨others, name, hname, ?_, hparent, ?_, hmiddle⟩
    · simp only [List.length_append, List.length_singleton]
      omega
    · have hfull : name ≠ "" := by
        rintro rfl
        cases hname
      apply startPieces_ofPieces path start others (idles ++ [last]) name hfull (by simp)
      rw [hstart, List.append_assoc]

/-- A directory that is there is left alone. -/
theorem makeDirectoriesWithin_of_there (hlook : View.Grounded t.lookup) (fuel : Nat) (path : String)
    (start parent place : Location) (most : List String) (last : String)
    (hstart : startPieces path = .ok (start, most ++ [last])) (hlast : isIdle last = false)
    (hlead : View.lead t.lookup start (most ++ [last]) = .ok place)
    (hbefore : View.lead t.lookup start most = .ok parent)
    (hplace : pieceLeads parent last = .ok place) (hparent : t.lookup parent = some .directory)
    (hthere : t.lookup place = some .directory) :
    t.makeDirectoriesWithin (fuel + 1) path = (.ok (), t) := by
  have hwalk := t.walk_of_lead_directory hlook start parent most hbefore hparent
  have hmake := t.makeDirectory_of_there path start most last parent hstart hlast hwalk hparent (by
    by_cases hup : last = ".."
    · exact .inl hup
    · obtain ⟨rfl, hshort⟩ := View.pieceLeads_name parent place last hlast hup hplace
      exact .inr ⟨hshort, by simp [hthere]⟩)
  have hdirectory : t.isDirectory path = true := by
    rw [t.isDirectory_iff hlook path place (by rw [denoted_of_start _ path start _ hstart, hlead]),
      hthere]
  obtain ⟨-, hnonempty, -, -⟩ := isAbove_start path start _ hstart
  simp only [makeDirectoriesWithin, hnonempty, hmake, hdirectory, Bool.false_eq_true, if_false,
    if_true]

/-- Those directories are made that are missing. By induction on the pieces: the directory that
the path lies in comes first, then the one that it denotes, if it is missing. -/
theorem makeDirectoriesWithin_eq (hlook : View.Grounded t.lookup) (fuel : Nat) (path : String)
    (start place : Location) (most : List String) (last : String)
    (hstart : startPieces path = .ok (start, most ++ [last])) (hlast : isIdle last = false)
    (hlead : View.lead t.lookup start (most ++ [last]) = .ok place)
    (hfile : ∀ other, other <+: place → ∀ content, t.lookup other ≠ some (.file content))
    (hfuel : most.length < fuel) :
    ∃ grown, t.makeDirectoriesWithin fuel path = (.ok (), grown) ∧
      grown.lookup = View.withDirectories t.lookup place := by
  induction fuel generalizing path most last place with
  | zero => omega
  | succ fuel ih =>
    obtain ⟨parent, hbefore, hnoFile, hback, hplace⟩ :=
      View.lead_name t.lookup start place most last hlead
    obtain ⟨-, hnonempty, -, -⟩ := isAbove_start path start _ hstart
    cases hentry : t.lookup place with
    | some entry =>
      cases entry with
      | file content => exact absurd hentry (hfile place (List.prefix_refl place) content)
      | directory =>
        have hparent := t.lookup_parent hlook parent place last hnoFile hback hplace hlast hentry
        exact ⟨t, t.makeDirectoriesWithin_of_there hlook fuel path start parent place most last
          hstart
          hlast hlead hbefore hplace hparent hentry,
          (View.withDirectories_of_there hlook place (by simp [hentry])).symm⟩
    | none =>
      have hup := t.ne_up_of_missing hlook parent place last hnoFile hback hplace hentry
      obtain ⟨rfl, hshort⟩ := View.pieceLeads_name parent place last hlast hup hplace
      have hinside : ∀ other, other <+: parent → ∀ content, t.lookup other ≠ some (.file content) :=
        fun other hother => hfile other (hother.trans (List.prefix_append parent [last]))
      have hmade (grown : Tree) (hview : grown.lookup = View.withDirectories t.lookup parent) :=
        t.exists_made grown hlook path start parent most last hstart hlast hbefore hinside hview hup
          hshort hentry
      by_cases hparent : t.lookup parent = none
      · obtain ⟨others, name, hname, hlength, hparentPath, hparentStart, hparentLead⟩ :=
          t.exists_parent hlook path start parent most last hstart hlast hbefore hparent
        obtain ⟨grown, hgrown, hview⟩ :=
          ih _ parent others name hparentStart hname hparentLead hinside (by omega)
        obtain ⟨made, hmake, hresult⟩ := hmade grown hview
        have hfirst := t.makeDirectory_of_missing path start most last hstart hlast (by
          rcases t.walk_of_lead hlook start parent most hbefore with hwalk | ⟨hwalk, -⟩
          · exact .inr ⟨parent, hwalk, hparent⟩
          · exact .inl hwalk)
        refine ⟨made, ?_, hresult⟩
        simp only [makeDirectoriesWithin, hnonempty, hfirst, hparentPath, hgrown, hmake,
          Bool.false_eq_true, if_false]
      · obtain ⟨made, hmake, hresult⟩ :=
          hmade t (View.withDirectories_of_there hlook parent hparent).symm
        refine ⟨made, ?_, hresult⟩
        simp only [makeDirectoriesWithin, hnonempty, hmake, Bool.false_eq_true, if_false]

theorem find_of_directory (hlook : View.Grounded t.lookup) (path : String) (place : Location)
    (hdenoted : View.denoted t.lookup path = .ok place)
    (hplace : t.lookup place = some .directory) :
    t.find path = .ok (place, .directory) := by
  rcases t.locate_of_denoted hlook path place hdenoted with hlocate | ⟨-, hmissing⟩
  · rw [find, hlocate]
    simp only [bind, Except.bind, hplace]
    rfl
  · rw [hplace] at hmissing
    cases hmissing

/-- The directory that a path lies in denotes what the pieces before its last one do. It may be
there already; otherwise it is itself named by a last piece, and the same can be asked of what it
lies in. -/
theorem directory_cases (hlook : View.Grounded t.lookup) (path : String) (start parent : Location)
    (before : List String) (name : String)
    (hstart : startPieces path = .ok (start, before ++ [name])) (hname : isIdle name = false)
    (hlead : View.lead t.lookup start before = .ok parent) :
    View.denoted t.lookup (Path.directory path) = .ok parent ∧
      (t.lookup parent = some .directory ∨ ∃ most last, isIdle last = false ∧
        startPieces (Path.directory path) = .ok (start, most ++ [last]) ∧
        View.lead t.lookup start (most ++ [last]) = .ok parent) := by
  obtain ⟨habove, -, hpieces, hstarts⟩ := isAbove_start path start _ hstart
  have hthere : t.lookup start = some .directory := hlook.above start habove
  have hself (pieces : List String) := View.lead_of_idle start pieces hthere
  rcases Path.parent_cases path before name hpieces.symm hname with
    ⟨hparent, hall⟩ | ⟨front, idles, rfl, hall, hparent, hfront⟩
  · obtain rfl := View.lead_idle start parent before hall hlead
    refine ⟨?_, .inl hthere⟩
    rw [Path.directory, hparent]
    cases habsolute : Path.isAbsolute path with
    | true =>
      rw [habsolute, if_pos rfl] at hstarts
      subst hstarts
      exact hself ["", ""] (by simp [isIdle])
    | false =>
      rw [habsolute, if_neg (by simp)] at hstarts
      subst hstarts
      exact hself ["."] (by simp [isIdle])
  · obtain ⟨middle, hmiddle, hidles⟩ :=
      (View.lead_append_eq_ok_iff start parent front idles).mp hlead
    obtain rfl := View.lead_idle middle parent idles hall hidles
    obtain ⟨most, last, rfl, hfull⟩ : ∃ most last, front = most ++ [last] ∧ last ≠ "" := by
      rcases hfront with rfl | ⟨most, last, rfl, hlast⟩
      · exact ⟨[], ".", rfl, by decide⟩
      · refine ⟨most, last, rfl, ?_⟩
        rintro rfl
        cases hlast
    have hfrontStart := startPieces_ofPieces path start most (idles ++ [name]) last hfull (by simp)
      (by rw [hstart, List.append_assoc])
    obtain ⟨-, hnonempty, -, -⟩ := isAbove_start _ start _ hfrontStart
    have hdirectory : Path.directory path = Path.ofPieces (most ++ [last]) := by
      rw [Path.directory, hparent]
      simp only [hnonempty, Bool.false_eq_true, if_false]
    rw [hdirectory, denoted_of_start _ _ start _ hfrontStart]
    refine ⟨hmiddle, ?_⟩
    rcases hfront with hdot | ⟨others, other, hothers, hother⟩
    · rw [hdot] at hmiddle
      obtain rfl := View.lead_idle start parent ["."] (by simp [isIdle]) hmiddle
      exact .inl hthere
    · obtain ⟨rfl, hsame⟩ := List.append_inj' hothers rfl
      obtain rfl := (List.cons.inj hsame).1
      exact .inr ⟨most, last, hother, hfrontStart, hmiddle⟩

/-- The directory that a path lies in is there after it was ensured, and with it what was missing
above it. -/
theorem ensureDirectory_eq (hlook : View.Grounded t.lookup) (path : String)
    (start parent : Location) (before : List String) (name : String)
    (hstart : startPieces path = .ok (start, before ++ [name])) (hname : isIdle name = false)
    (hlead : View.lead t.lookup start before = .ok parent)
    (hinside : ∀ other, other <+: parent → ∀ content, t.lookup other ≠ some (.file content)) :
    ∃ made, ensureDirectory t (Path.directory path) = (.ok (), made) ∧
      made.lookup = View.withDirectories t.lookup parent ∧
      made.find (Path.directory path) = .ok (parent, .directory) := by
  obtain ⟨hdenoted, hcases⟩ :=
    t.directory_cases hlook path start parent before name hstart hname hlead
  by_cases hthere : t.lookup parent = some .directory
  · refine ⟨t, ?_, (View.withDirectories_of_there hlook parent (by simp [hthere])).symm,
      t.find_of_directory hlook _ parent hdenoted hthere⟩
    rw [ensureDirectory, if_pos ((t.isDirectory_iff hlook _ parent hdenoted).mpr hthere)]
  · obtain ⟨most, last, hlast, hdirectory, hmost⟩ := hcases.resolve_left hthere
    have hfuel : most.length < (Path.directory path).length + 1 := by
      obtain ⟨-, -, hpieces, -⟩ := isAbove_start _ start _ hdirectory
      have hlength := Path.length_pieces_le (Path.directory path)
      rw [← hpieces, List.length_append, List.length_singleton] at hlength
      omega
    obtain ⟨made, hmake, hview⟩ := t.makeDirectoriesWithin_eq hlook _ _ start parent most last
      hdirectory hlast hmost hinside hfuel
    have hgrounded : View.Grounded made.lookup := hview ▸ hlook.withDirectories parent hinside
    have hmade : View.denoted made.lookup (Path.directory path) = .ok parent := by
      rw [denoted_of_start _ _ start _ hdirectory, hview]
      exact View.lead_withDirectories hlook start parent parent _ hmost
    refine ⟨made, ?_, hview, made.find_of_directory hgrounded _ parent hmade (by
      rw [hview, View.withDirectories_self parent (hinside parent (List.prefix_refl parent))])⟩
    rw [ensureDirectory, if_neg (by rwa [t.isDirectory_iff hlook _ parent hdenoted]),
      makeDirectories, hmake]

/-- A file can be moved to where its directory is, unless a directory is in its place. -/
theorem target_eq (path : String) (start parent : Location) (before : List String) (name : String)
    (hstart : startPieces path = .ok (start, before ++ [name])) (hname : isIdle name = false)
    (hup : name ≠ "..") (hshort : isTooLong name = false) (hwalk : t.walk start before = .ok parent)
    (hparent : t.lookup parent = some .directory) :
    t.target path =
      if t.lookup (parent ++ [name]) = some .directory then .error .isADirectory
      else .ok (parent ++ [name]) := by
  have hdrop := dropWhile_isEmpty_reverse before name hname
  obtain ⟨hfull, hdot⟩ : name.isEmpty = false ∧ name ≠ "." := by simpa [isIdle] using hname
  simp only [target, hstart, bind, Except.bind, hdrop, List.reverse_reverse, hwalk, hparent, hdot,
    hup, hshort, List.getLast?_concat, Option.any_some, hfull, decide_false, Bool.or_false,
    Bool.false_eq_true, if_false]
  cases hentry : t.lookup (parent ++ [name]) with
  | none => rfl
  | some entry => cases entry <;> rfl

end Tree

end Subtitling.Files
