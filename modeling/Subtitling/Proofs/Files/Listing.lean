import Mathlib.Data.List.Nodup
import Mathlib.Data.String.Basic
import Subtitling.Proofs.Files.Path
import Subtitling.Proofs.Files.Tree

/-!
What is listed in a directory. Where every place is listed once and under a name, a directory
lists each of its files once, in rising order of the names, and the path of a file that is listed
leads to it.
-/

namespace Subtitling.Files

open Files.Path (isIdle)

structure IsName (name : String) : Prop where
  noSlash : '/' ∉ name.toList
  noNul : '\x00' ∉ name.toList
  names : isIdle name = false
  notUp : name ≠ ".."
  short : Tree.isTooLong name = false

namespace Path

theorem isAbsolute_eq_false (name : String) (h : '/' ∉ name.toList) : isAbsolute name = false := by
  rw [isAbsolute, beq_eq_false_iff_ne]
  intro hhead
  exact h (List.mem_of_mem_head? hhead)

theorem pieces_join (base name : String) (hbase : base ≠ "") (hname : '/' ∉ name.toList) :
    pieces (join base name) = pieces base ++ [name] ∨
      ∃ front, pieces base = front ++ [""] ∧ pieces (join base name) = front ++ [name] := by
  have hpieces := pieces_join_of_relative base name hbase (isAbsolute_eq_false name hname)
  rwa [pieces_of_not_mem name hname] at hpieces

theorem isAbsolute_join (base name : String) (hbase : base ≠ "") (hname : '/' ∉ name.toList) :
    isAbsolute (join base name) = isAbsolute base := by
  have hchars : base.toList ≠ [] := by simpa using hbase
  have hempty : base.isEmpty = false := by simpa using hbase
  rw [join, isAbsolute_eq_false name hname, hempty]
  simp only [Bool.or_self, Bool.false_eq_true, if_false]
  split
  · rw [isAbsolute, String.toList_append, List.head?_append_of_ne_nil _ hchars, isAbsolute]
  · rw [isAbsolute, String.append_assoc, String.toList_append, List.head?_append_of_ne_nil _ hchars,
      isAbsolute]

theorem fileName_join (base name : String) (hbase : base ≠ "") (hname : IsName name) :
    fileName? (join base name) = some name := by
  obtain ⟨before, hpieces⟩ : ∃ before, pieces (join base name) = before ++ [name] := by
    rcases pieces_join base name hbase hname.noSlash with hpieces | ⟨front, -, hpieces⟩
    · exact ⟨_, hpieces⟩
    · exact ⟨_, hpieces⟩
  have hdot : name ≠ "." := by
    rintro rfl
    exact absurd hname.names (by decide)
  rw [fileName?, named_of_pieces _ before name hpieces hname.names]
  simp only
  rw [if_neg (by simp [hdot, hname.notUp])]

end Path

namespace Tree

/-- Every place is listed once and has a name. -/
structure Listed (t : Tree) : Prop where
  once : (t.entries.map Prod.fst).Nodup
  named : ∀ e ∈ t.entries, ∃ place name, e.1 = place ++ [name] ∧ IsName name

variable {t : Tree}

theorem isAbove_append (place : Location) (name : String) (hup : name ≠ "..") (hroot : name ≠ "/") :
    Location.isAbove (place ++ [name]) = false := by
  have hne : place ++ [name] ≠ root := by
    intro heq
    obtain ⟨-, hname⟩ := List.append_inj' (heq.trans (List.nil_append ["/"]).symm) rfl
    exact hroot (List.singleton_inj.mp hname)
  simp [Location.isAbove, hup, hne]

/-- Files are at the places where they are listed. No place is listed twice, so what is listed is
what is found there. -/
theorem lookup_file_iff (ht : t.Listed) (place : Location) (content : List UInt8) :
    t.lookup place = some (.file content) ↔ (place, Entry.file content) ∈ t.entries := by
  constructor
  · intro h
    rw [lookup] at h
    split at h
    · cases h
    · obtain ⟨before, after, hentries, -⟩ := List.lookup_eq_some_iff.mp h
      simp [hentries]
  · intro h
    obtain ⟨parent, name, hplace, hname⟩ := ht.named _ h
    obtain rfl : place = parent ++ [name] := hplace
    have hroot : name ≠ "/" := by
      rintro rfl
      exact absurd hname.noSlash (by decide)
    rw [lookup, isAbove_append parent name hname.notUp hroot, if_neg Bool.false_ne_true]
    obtain ⟨before, after, hentries⟩ := List.append_of_mem h
    have honce := ht.once
    rw [hentries, List.map_append, List.map_cons, List.nodup_middle] at honce
    refine List.lookup_eq_some_iff.mpr ⟨before, after, hentries, fun e he => ?_⟩
    have hnot := (List.nodup_cons.mp honce).1
    rw [bne_iff_ne]
    rintro heq
    exact hnot (List.mem_append_left _ (List.mem_map.mpr ⟨e, he, heq.symm⟩))

def childIn (place : Location) (listed : Location × Entry) : Option (String × Entry) :=
  match listed.1.getLast? with
  | some name => if listed.1.dropLast = place then some (name, listed.2) else none
  | none => none

theorem children_eq (place : Location) :
    t.children place = (t.entries.filterMap (childIn place)).mergeSort fun a b => a.1 ≤ b.1 := rfl

/-- A name is listed in a directory just where the place of the entry is that of the directory
with the name behind it; what lies deeper is not listed. -/
theorem childIn_eq_some_iff (place : Location) (listed : Location × Entry) (name : String)
    (entry : Entry) :
    childIn place listed = some (name, entry) ↔ listed = (place ++ [name], entry) := by
  constructor
  · intro h
    rw [childIn] at h
    split at h
    · rename_i last hlast
      split at h
      · rename_i hplace
        obtain ⟨rfl, rfl⟩ : last = name ∧ listed.2 = entry := by simpa using h
        obtain ⟨before, hbefore⟩ := List.getLast?_eq_some_iff.mp hlast
        rw [hbefore, List.dropLast_concat] at hplace
        exact Prod.ext (by rw [hbefore, hplace]) rfl
      · cases h
    · cases h
  · rintro rfl
    simp [childIn]

theorem mem_children_iff (place : Location) (name : String) (entry : Entry) :
    (name, entry) ∈ t.children place ↔ (place ++ [name], entry) ∈ t.entries := by
  simp only [children_eq, List.mem_mergeSort, List.mem_filterMap, childIn_eq_some_iff,
    exists_eq_right]

/-- The names in a directory rise, so none occurs twice. -/
theorem pairwise_children (ht : t.Listed) (place : Location) :
    (t.children place).Pairwise fun a b => a.1 < b.1 := by
  have hsorted : (t.children place).Pairwise fun a b => decide (a.1 ≤ b.1) = true := by
    refine List.pairwise_mergeSort (fun a b c hab hbc => ?_) (fun a b => ?_) _
    · simp only [decide_eq_true_eq] at hab hbc ⊢
      exact le_trans hab hbc
    · simpa using le_total a.1 b.1
  have hlisted : (t.entries.filterMap (childIn place)).Pairwise fun a b => a.1 ≠ b.1 := by
    refine List.pairwise_filterMap.mpr ((List.pairwise_map.mp ht.once).imp ?_)
    rintro e e' hne ⟨name, entry⟩ hchild ⟨name', entry'⟩ hchild' hname
    obtain rfl := (childIn_eq_some_iff place e name entry).mp hchild
    obtain rfl := (childIn_eq_some_iff place e' name' entry').mp hchild'
    exact hne (congrArg (fun n => place ++ [n]) hname)
  have hdistinct : (t.children place).Pairwise fun a b => a.1 ≠ b.1 :=
    ((List.mergeSort_perm _ _).pairwise_iff fun {_ _} hne => Ne.symm hne).mpr hlisted
  exact hsorted.imp₂ (fun a b hle hne => lt_of_le_of_ne (by simpa using hle) hne) hdistinct

/-- A name, if it is that of a file with an extension. -/
def nameWithExtension (wanted : String) (child : String × Entry) : Option String :=
  match child.2, (Path.splitExtension child.1).2 with
  | .file _, some ext =>
    if String.ofList (ext.toList.map Char.toLower) = wanted then some child.1 else none
  | _, _ => none

def namesWithExtension (t : Tree) (place : Location) (wanted : String) : List String :=
  (t.children place).filterMap (nameWithExtension wanted)

/-- Whether a name has an extension, in capitals or not. -/
def HasExtension (name wanted : String) : Prop :=
  ∃ ext, (Path.splitExtension name).2 = some ext ∧
    String.ofList (ext.toList.map Char.toLower) = wanted

theorem nameWithExtension_eq_some_iff (wanted name : String) (child : String × Entry) :
    nameWithExtension wanted child = some name ↔
      child.1 = name ∧ (∃ content, child.2 = .file content) ∧ HasExtension name wanted := by
  constructor
  · intro h
    rw [nameWithExtension] at h
    split at h
    · rename_i content ext hentry hext
      split at h
      · rename_i hwanted
        obtain rfl := Option.some.inj h
        exact ⟨rfl, ⟨content, hentry⟩, ext, hext, hwanted⟩
      · cases h
    · cases h
  · rintro ⟨rfl, ⟨content, hentry⟩, ext, hext, hwanted⟩
    simp [nameWithExtension, hentry, hext, hwanted]

theorem mem_namesWithExtension (ht : t.Listed) (place : Location) (wanted name : String) :
    name ∈ t.namesWithExtension place wanted ↔
      (∃ content, t.lookup (place ++ [name]) = some (.file content)) ∧
        HasExtension name wanted := by
  simp only [namesWithExtension, List.mem_filterMap, nameWithExtension_eq_some_iff,
    lookup_file_iff ht, ← mem_children_iff]
  constructor
  · rintro ⟨⟨_, _⟩, hmem, rfl, ⟨content, rfl⟩, hext⟩
    exact ⟨⟨content, hmem⟩, hext⟩
  · rintro ⟨⟨content, hmem⟩, hext⟩
    exact ⟨_, hmem, rfl, ⟨content, rfl⟩, hext⟩

theorem pairwise_namesWithExtension (ht : t.Listed) (place : Location) (wanted : String) :
    (t.namesWithExtension place wanted).Pairwise (· < ·) := by
  refine List.pairwise_filterMap.mpr ((pairwise_children ht place).imp ?_)
  intro a b hless name hname other hother
  obtain ⟨rfl, -⟩ := (nameWithExtension_eq_some_iff wanted name a).mp hname
  obtain ⟨rfl, -⟩ := (nameWithExtension_eq_some_iff wanted other b).mp hother
  exact hless

theorem filesWithExtension_eq (dir : String) (place : Location)
    (hdir : t.find dir = .ok (place, .directory)) :
    t.filesWithExtension dir "srt" = (t.namesWithExtension place "srt").map (Path.join dir) := by
  have hwanted : String.ofList (("srt".toList.dropWhile (· = '.')).map Char.toLower) = "srt" := by
    decide
  rw [filesWithExtension, hdir, namesWithExtension, List.map_filterMap]
  simp only [hwanted]
  congr 1
  funext ⟨name, entry⟩
  rw [nameWithExtension]
  cases entry with
  | directory => rfl
  | file content =>
    cases (Path.splitExtension name).2 with
    | none => rfl
    | some ext => exact (apply_ite (Option.map (Path.join dir)) (_ = _) (some name) none).symm

/-- What is found at a path is what is at the place where the path ends. -/
theorem find_eq_ok_iff (path : String) (place : Location) (entry : Entry) :
    t.find path = .ok (place, entry) ↔ t.locate path = .ok place ∧ t.lookup place = some entry := by
  rw [find]
  cases t.locate path with
  | error e => simp [bind, Except.bind]
  | ok other =>
    cases hlookup : t.lookup other with
    | none =>
      simp only [bind, Except.bind, hlookup, throw, throwThe, MonadExceptOf.throw, reduceCtorEq,
        Except.ok.injEq, false_iff, not_and]
      rintro rfl hentry
      cases hlookup.symm.trans hentry
    | some found =>
      simp only [bind, Except.bind, hlookup, pure, Except.pure, Except.ok.injEq, Prod.mk.injEq]
      constructor
      · rintro ⟨rfl, rfl⟩
        exact ⟨rfl, hlookup⟩
      · rintro ⟨rfl, hentry⟩
        exact ⟨rfl, Option.some.inj (hlookup.symm.trans hentry)⟩

/-- Which paths can be followed at all: those that are not empty, have no NUL and are not too
long. They begin at the root or at the working directory. -/
theorem startPieces_eq_ok_iff (path : String) (found : Location × List String) :
    startPieces path = .ok found ↔
      path ≠ "" ∧ '\x00' ∉ path.toList ∧ path.utf8ByteSize < maxPathSize ∧
        found = (if Path.isAbsolute path then root else [], Path.pieces path) := by
  have hempty : path.isEmpty = true ↔ path = "" := String.isEmpty_iff
  have hnul : path.toList.contains '\x00' = true ↔ '\x00' ∈ path.toList := List.contains_iff_mem
  rw [startPieces]
  split
  · rename_i h
    simp [hempty.mp h]
  split
  · rename_i h
    simp [hnul.mp h]
  split
  · rename_i h
    simp [Nat.not_lt.mpr h]
  · rename_i hfull hplain hshort
    simp only [Except.ok.injEq]
    rw [hempty] at hfull
    rw [hnul] at hplain
    constructor
    · rintro rfl
      exact ⟨hfull, hplain, Nat.lt_of_not_le hshort, rfl⟩
    · rintro ⟨-, -, -, rfl⟩
      rfl

theorem walk_append_eq_ok_iff (start place : Location) (front rest : List String) :
    t.walk start (front ++ rest) = .ok place ↔
      ∃ middle, t.walk start front = .ok middle ∧ t.walk middle rest = .ok place := by
  refine ⟨fun h => ?_, fun ⟨middle, hfront, hrest⟩ =>
    walk_append t start middle place _ _ hfront hrest⟩
  induction front generalizing start with
  | nil => exact ⟨start, rfl, h⟩
  | cons piece more ih =>
    obtain ⟨hstart, next, hnext, hmore⟩ := (walk_cons_eq_ok_iff t start place piece _).mp h
    obtain ⟨middle, hmiddle, hrest⟩ := ih next hmore
    exact ⟨middle, (walk_cons_eq_ok_iff t start middle piece more).mpr
      ⟨hstart, next, hnext, hmiddle⟩, hrest⟩

theorem not_mem_join (base name : String) (c : Char) (hbase : c ∉ base.toList)
    (hname : c ∉ name.toList) (hslash : c ≠ '/') : c ∉ (Path.join base name).toList := by
  rw [Path.join]
  split
  · exact hname
  split
  · simp [hbase, hname]
  · simp [hbase, hname, hslash]

/-- What is listed is found at its path, unless the path is too long for the system. The path of
the directory and the name are followed one after the other, and the name is no dot and has no
slash. -/
theorem find_join (dir name : String) (place : Location) (entry : Entry)
    (hdir : t.find dir = .ok (place, .directory)) (hname : IsName name)
    (hentry : t.lookup (place ++ [name]) = some entry)
    (hshort : (Path.join dir name).utf8ByteSize < maxPathSize) :
    t.find (Path.join dir name) = .ok (place ++ [name], entry) := by
  obtain ⟨hlocate, hthere⟩ := (find_eq_ok_iff dir place .directory).mp hdir
  obtain ⟨start, parts, hstart, hwalk⟩ := (locate_eq_ok_iff t dir place).mp hlocate
  obtain ⟨hfull, hplain, -, hfound⟩ := (startPieces_eq_ok_iff dir _).mp hstart
  obtain ⟨rfl, rfl⟩ := Prod.mk.inj hfound
  have hlast : pieceLeads place name = .ok (place ++ [name]) := by
    have hnames : (name.isEmpty || decide (name = ".")) = false := hname.names
    rw [pieceLeads, hnames, hname.short]
    simp [hname.notUp]
  have hpieces : t.walk (if Path.isAbsolute dir then root else [])
    (Path.pieces (Path.join dir name)) =
      .ok (place ++ [name]) := by
    have hstep : t.walk place [name] = .ok (place ++ [name]) :=
      (walk_cons_eq_ok_iff t place _ name []).mpr ⟨hthere, _, hlast, rfl⟩
    rcases Path.pieces_join dir name hfull hname.noSlash with hjoin | ⟨front, hfront, hjoin⟩
    · rw [hjoin]
      exact walk_append t _ place _ _ _ hwalk hstep
    · rw [hfront] at hwalk
      obtain ⟨middle, hmiddle, hend⟩ := (walk_append_eq_ok_iff _ _ front [""]).mp hwalk
      obtain ⟨-, next, hnext, hsame⟩ := (walk_cons_eq_ok_iff t middle place "" []).mp hend
      obtain rfl : middle = next := Except.ok.inj hnext
      obtain rfl : middle = place := Except.ok.inj hsame
      rw [hjoin]
      exact walk_append t _ middle _ _ _ hmiddle hstep
  refine (find_eq_ok_iff _ _ _).mpr ⟨(locate_eq_ok_iff t _ _).mpr ⟨_, _, ?_, hpieces⟩, hentry⟩
  refine (startPieces_eq_ok_iff _ _).mpr ⟨?_, ?_, hshort, ?_⟩
  · intro hempty
    have hnone : Path.fileName? "" = none := by decide
    have hsome := Path.fileName_join dir name hfull hname
    rw [hempty, hnone] at hsome
    cases hsome
  · exact not_mem_join dir name _ hplain hname.noNul (by decide)
  · rw [Path.isAbsolute_join dir name hfull hname.noSlash]

end Tree

end Subtitling.Files
