import Mathlib.Data.List.Forall2
import Subtitling.Proofs.Files.Listing
import Subtitling.Proofs.Source.Resolution

/-!
What a scan finds. Several spellings may lead to one directory, which is searched once all the
same, so each subtitle around a video is found once; what is found is in order, and whether a
file is taken for English agrees with the language that is given for it.
-/

namespace Subtitling.Source

open Files
open Files.Tree (Listed HasExtension)

/-- In small letters, a name has a mark of English between two separators. -/
def SaysEnglish (name : String) : Prop :=
  ∃ front back : List Char, ∃ before ∈ ['.', '_', '-'], ∃ mark ∈ ["en", "eng", "english"],
    ∃ behind ∈ ['.', '_', '-'],
      Text.lowerChars name.toList = front ++ before :: (mark.toList ++ behind :: back)

theorem isNameSeparator_iff (c : Char) : isNameSeparator c = true ↔ c ∈ ['.', '_', '-'] := by
  simp [isNameSeparator, or_assoc]

theorem startsWithMark_iff (cs : List Char) :
    startsWithMark cs = true ↔ ∃ mark ∈ englishMarks, ∃ behind back,
      cs = mark ++ behind :: back ∧ isNameSeparator behind = true := by
  simp only [startsWithMark, List.any_eq_true, Bool.and_eq_true, List.isPrefixOf_iff_prefix]
  refine exists_congr fun mark => and_congr_right fun _ => ?_
  constructor
  · rintro ⟨⟨rest, rfl⟩, hbehind⟩
    rw [List.drop_left] at hbehind
    cases rest with
    | nil => cases hbehind
    | cons behind back => exact ⟨behind, back, rfl, by simpa using hbehind⟩
  · rintro ⟨behind, back, rfl, hbehind⟩
    exact ⟨⟨_, rfl⟩, by simpa using hbehind⟩

/-- A name holds an English mark just where some separator has a mark with another separator
behind it, wherever in the name that is. -/
theorem holdsMark_iff (cs : List Char) :
    holdsMark cs = true ↔ ∃ front before rest, cs = front ++ before :: rest ∧
      isNameSeparator before = true ∧ startsWithMark rest = true := by
  induction cs with
  | nil => simp [holdsMark]
  | cons c rest ih =>
    rw [holdsMark, Bool.or_eq_true, Bool.and_eq_true, ih]
    constructor
    · rintro (⟨hc, hrest⟩ | ⟨front, before, more, rfl, hbefore, hmore⟩)
      · exact ⟨[], c, rest, rfl, hc, hrest⟩
      · exact ⟨c :: front, before, more, rfl, hbefore, hmore⟩
    · rintro ⟨front, before, more, hsplit, hbefore, hmore⟩
      cases front with
      | nil =>
        obtain ⟨rfl, rfl⟩ := List.cons.inj hsplit
        exact .inl ⟨hbefore, hmore⟩
      | cons first others =>
        obtain ⟨rfl, rfl⟩ := List.cons.inj hsplit
        exact .inr ⟨others, before, more, rfl, hbefore, hmore⟩

theorem isEnglishName_iff (name : String) : isEnglishName name = true ↔ SaysEnglish name := by
  have hmarks : englishMarks = ["en", "eng", "english"].map String.toList := rfl
  simp only [isEnglishName, holdsMark_iff, startsWithMark_iff, isNameSeparator_iff, hmarks,
    List.mem_map, SaysEnglish]
  constructor
  · rintro ⟨front, before, _, hname, hbefore, _, ⟨mark, hmark, rfl⟩, behind, back, rfl, hbehind⟩
    exact ⟨front, back, before, hbefore, mark, hmark, behind, hbehind, hname⟩
  · rintro ⟨front, back, before, hbefore, mark, hmark, behind, hbehind, hname⟩
    exact ⟨front, before, _, hname, hbefore, _, ⟨mark, hmark, rfl⟩, behind, back, rfl, hbehind⟩

section

variable (t : Tree)

/-- The directories where the subtitles of a video may lie, as they are spelled. -/
def spelledDirectories (video : String) : List String :=
  Path.directory video :: subtitleFolders.map (Path.join (Path.directory video)) ++
    ((Path.stem? video).map (Path.join (Path.directory video))).toList

theorem searchDirectories_eq (video : String) :
    searchDirectories t video = distinctDirectories t [] (spelledDirectories video) := rfl

def directoryAt? (path : String) : Option Location :=
  match t.find path with
  | .ok (place, .directory) => some place
  | _ => none

theorem directoryAt_eq_some_iff (path : String) (place : Location) :
    directoryAt? t path = some place ↔ t.find path = .ok (place, .directory) := by
  rw [directoryAt?]
  split
  · rename_i other hfind
    simp [hfind]
  · rename_i hother
    simpa using hother place

theorem distinctDirectories_cons (seen : List Location) (dir : String) (rest : List String) :
    distinctDirectories t seen (dir :: rest) =
      match directoryAt? t dir with
      | some place =>
        if seen.contains place then distinctDirectories t seen rest
        else dir :: distinctDirectories t (place :: seen) rest
      | none => distinctDirectories t seen rest := by
  rw [distinctDirectories, directoryAt?]
  rcases t.find dir with e | ⟨place, _ | content⟩ <;> rfl

/-- A directory that is searched is spelled somewhere and was not seen before. The places seen so
far are those of the directories in front of it, by induction on the spellings. -/
theorem of_mem_distinctDirectories (seen : List Location) (dirs : List String) (dir : String)
    (h : dir ∈ distinctDirectories t seen dirs) :
    dir ∈ dirs ∧ ∃ place, directoryAt? t dir = some place ∧ place ∉ seen := by
  induction dirs generalizing seen with
  | nil => cases h
  | cons first rest ih =>
    rw [distinctDirectories_cons] at h
    have hlater {seen : List Location} (h : dir ∈ distinctDirectories t seen rest) :
        dir ∈ first :: rest ∧ ∃ place, directoryAt? t dir = some place ∧ place ∉ seen :=
      ⟨List.mem_cons_of_mem _ (ih seen h).1, (ih seen h).2⟩
    cases hfirst : directoryAt? t first with
    | none =>
      rw [hfirst] at h
      exact hlater h
    | some place =>
      simp only [hfirst] at h
      split at h
      · exact hlater h
      · rename_i hnew
        rcases List.mem_cons.mp h with rfl | h
        · exact ⟨List.mem_cons_self .., place, hfirst, by simpa using hnew⟩
        · obtain ⟨hmem, other, hother, hunseen⟩ := hlater h
          exact ⟨hmem, other, hother, fun hseen => hunseen (List.mem_cons_of_mem _ hseen)⟩

/-- No directory is searched twice. -/
theorem pairwise_distinctDirectories (seen : List Location) (dirs : List String) :
    (distinctDirectories t seen dirs).Pairwise fun a b => directoryAt? t a ≠ directoryAt? t b := by
  induction dirs generalizing seen with
  | nil => exact .nil
  | cons first rest ih =>
    rw [distinctDirectories_cons]
    cases hfirst : directoryAt? t first with
    | none => exact ih seen
    | some place =>
      dsimp only
      split
      · exact ih seen
      · refine List.pairwise_cons.mpr ⟨fun dir hdir hsame => ?_, ih (place :: seen)⟩
        obtain ⟨-, other, hother, hunseen⟩ := of_mem_distinctDirectories t _ rest dir hdir
        rw [hfirst, hother] at hsame
        exact hunseen (by simp [Option.some.inj hsame])

/-- A directory that is spelled is searched, unless it was seen before. It may be searched under
another spelling, which is the first that leads to its place. -/
theorem exists_mem_distinctDirectories (seen : List Location) (dirs : List String) (dir : String)
    (place : Location) (hdir : dir ∈ dirs) (hplace : directoryAt? t dir = some place)
    (hunseen : place ∉ seen) :
    ∃ other ∈ distinctDirectories t seen dirs, directoryAt? t other = some place := by
  induction dirs generalizing seen with
  | nil => cases hdir
  | cons first rest ih =>
    rw [distinctDirectories_cons]
    cases hfirst : directoryAt? t first with
    | none =>
      rcases List.mem_cons.mp hdir with rfl | hrest
      · rw [hplace] at hfirst
        cases hfirst
      · exact ih seen hrest hunseen
    | some here =>
      dsimp only
      by_cases hhere : here = place
      · subst hhere
        rw [if_neg (by simpa using hunseen)]
        exact ⟨first, List.mem_cons_self .., hfirst⟩
      · have hrest : dir ∈ rest := by
          rcases List.mem_cons.mp hdir with rfl | hrest
          · rw [hplace] at hfirst
            exact absurd (Option.some.inj hfirst).symm hhere
          · exact hrest
        split
        · exact ih seen hrest hunseen
        · obtain ⟨other, hother, hsame⟩ :=
            ih (here :: seen) hrest (by simp [hunseen, Ne.symm hhere])
          exact ⟨other, List.mem_cons_of_mem _ hother, hsame⟩

end

/-- Where a file is found: the directory as it is spelled, its place, and the name of the file. -/
structure Spot where
  dir : String
  place : Location
  name : String

namespace Spot

def location (s : Spot) : Location := s.place ++ [s.name]

def path (s : Spot) : String := Path.join s.dir s.name

end Spot

section

variable {t : Tree} (video : String)

def spotsIn (t : Tree) (dir : String) : List Spot :=
  match directoryAt? t dir with
  | some place => (t.namesWithExtension place "srt").map fun name => ⟨dir, place, name⟩
  | none => []

def spots (t : Tree) (video : String) : List Spot := (searchDirectories t video).flatMap (spotsIn t)

theorem filesWithExtension_eq_map_path (dir : String) :
    t.filesWithExtension dir "srt" = (spotsIn t dir).map Spot.path := by
  rw [spotsIn]
  cases hdir : directoryAt? t dir with
  | some place =>
    rw [Tree.filesWithExtension_eq dir place ((directoryAt_eq_some_iff t dir place).mp hdir)]
    simp [Spot.path, Function.comp_def]
  | none =>
    rw [directoryAt?] at hdir
    rw [Tree.filesWithExtension]
    rcases hfind : t.find dir with e | ⟨place, _ | content⟩
    · rfl
    · rw [hfind] at hdir
      cases hdir
    · rfl

theorem mem_spotsIn_iff (ht : t.Listed) (dir : String) (s : Spot) :
    s ∈ spotsIn t dir ↔ s.dir = dir ∧ t.find dir = .ok (s.place, .directory) ∧
      (∃ content, t.lookup s.location = some (.file content)) ∧ HasExtension s.name "srt" := by
  rw [← directoryAt_eq_some_iff, Spot.location, ← Tree.mem_namesWithExtension ht, spotsIn]
  cases hdir : directoryAt? t dir with
  | none => simp
  | some place =>
    simp only [List.mem_map, Option.some.injEq]
    constructor
    · rintro ⟨name, hname, rfl⟩
      exact ⟨rfl, rfl, hname⟩
    · rintro ⟨rfl, rfl, hname⟩
      exact ⟨s.name, hname, rfl⟩

theorem mem_spots_iff (ht : t.Listed) (s : Spot) :
    s ∈ spots t video ↔ s.dir ∈ searchDirectories t video ∧
      t.find s.dir = .ok (s.place, .directory) ∧
      (∃ content, t.lookup s.location = some (.file content)) ∧ HasExtension s.name "srt" := by
  simp only [spots, List.mem_flatMap, mem_spotsIn_iff ht]
  constructor
  · rintro ⟨dir, hdir, rfl, hspot⟩
    exact ⟨hdir, hspot⟩
  · rintro ⟨hdir, hspot⟩
    exact ⟨s.dir, hdir, rfl, hspot⟩

/-- Spots stand in the order of their directories, and in each directory in the order of names. -/
def Spot.Before (t : Tree) (video : String) (a b : Spot) : Prop :=
  a.place = b.place ∧ a.name < b.name ∨
    a.place ≠ b.place ∧ [a.dir, b.dir].Sublist (searchDirectories t video)

/-- The spots are gone through in the order in which directories are searched, and within a
directory in that of the names. -/
theorem pairwise_spots (ht : t.Listed) : (spots t video).Pairwise (Spot.Before t video) := by
  refine List.pairwise_flatMap.mpr ⟨fun dir _ => ?_, ?_⟩
  · rw [spotsIn]
    cases directoryAt? t dir with
    | none => exact .nil
    | some place =>
      exact List.pairwise_map.mpr ((Tree.pairwise_namesWithExtension ht place "srt").imp
        fun hless => .inl ⟨rfl, hless⟩)
  · refine List.pairwise_iff_forall_sublist.mpr fun {dir other} hsub a ha b hb => .inr ?_
    obtain ⟨rfl, hplace, -⟩ := (mem_spotsIn_iff ht dir a).mp ha
    obtain ⟨rfl, hplace', -⟩ := (mem_spotsIn_iff ht other b).mp hb
    have hapart := List.pairwise_iff_forall_sublist.mp
      (pairwise_distinctDirectories t [] (spelledDirectories video))
        (searchDirectories_eq t video ▸ hsub)
    rw [← directoryAt_eq_some_iff] at hplace hplace'
    rw [hplace, hplace'] at hapart
    exact ⟨fun hsame => hapart (congrArg some hsame), hsub⟩

/-- No file is found at two spots. -/
theorem nodup_location_spots (ht : t.Listed) : ((spots t video).map Spot.location).Nodup := by
  refine List.pairwise_map.mpr ((pairwise_spots video ht).imp ?_)
  rintro a b (⟨-, hless⟩ | ⟨hapart, -⟩) hsame
  · obtain ⟨-, hname⟩ := List.append_inj' hsame rfl
    exact absurd (List.singleton_inj.mp hname) hless.ne
  · exact hapart (List.append_inj' hsame rfl).1

variable (d : Language.Detector)

def Spot.found (d : Language.Detector) (t : Tree) (s : Spot) : Found := classify d t s.path

/-- Sorting keeps the order of those of which either may stand before the other. Sorting is
stable, which is what settles a tie between two names by the order of the directories. -/
theorem pairwise_mergeSort_and {α : Type} {le : α → α → Bool}
    (htrans : ∀ a b c, le a b = true → le b c = true → le a c = true)
    (htotal : ∀ a b, (le a b || le b a) = true) {r : α → α → Prop} {xs : List α}
    (h : xs.Pairwise r) :
    (xs.mergeSort le).Pairwise fun a b => le a b = true ∧ (le b a = true → r a b) := by
  have hsorted := List.pairwise_mergeSort (List.zipIdxLE_trans htrans) (List.zipIdxLE_total htotal)
    xs.zipIdx
  have hplaces : xs.zipIdx.Pairwise fun a b => a.2 ≠ b.2 := by
    refine List.pairwise_iff_getElem.mpr fun i j hi hj hlt => ?_
    simpa using Nat.ne_of_lt hlt
  have hapart := ((List.mergeSort_perm xs.zipIdx (List.zipIdxLE le)).pairwise_iff
    fun {_ _} hne => Ne.symm hne).mpr hplaces
  rw [← List.mergeSort_zipIdx, List.pairwise_map]
  refine (hsorted.and hapart).imp_of_mem fun {a b} ha hb hab => ?_
  rw [List.mem_mergeSort, List.mem_zipIdx_iff_getElem?] at ha hb
  obtain ⟨hle, hne⟩ := hab
  simp only [List.zipIdxLE] at hle
  split at hle
  · rename_i hfirst
    refine ⟨hfirst, fun hback => ?_⟩
    rw [if_pos hback, decide_eq_true_eq] at hle
    obtain ⟨hi, hai⟩ := List.getElem?_eq_some_iff.mp ha
    obtain ⟨hj, hbj⟩ := List.getElem?_eq_some_iff.mp hb
    have hr := List.pairwise_iff_getElem.mp h a.2 b.2 hi hj (by omega)
    rwa [hai, hbj] at hr
  · cases hle

/-- The spots of what is found, in the order of the scan. -/
def sortedSpots (d : Language.Detector) (t : Tree) (video : String) : List Spot :=
  (spots t video).mergeSort fun a b => (a.found d t).before (b.found d t)

theorem scan_eq : scan d t video = (sortedSpots d t video).map (Spot.found d t) := by
  have hpaths : ((searchDirectories t video).flatMap fun dir => t.filesWithExtension dir "srt") =
      (spots t video).map Spot.path := by
    simp only [filesWithExtension_eq_map_path, spots, List.map_flatMap]
  rw [scan, hpaths, List.map_map, sortedSpots]
  exact (List.map_mergeSort (f := Spot.found d t) (s := Found.before) fun _ _ _ _ => rfl).symm

theorem mem_sortedSpots_iff (s : Spot) : s ∈ sortedSpots d t video ↔ s ∈ spots t video :=
  List.mem_mergeSort

theorem isName_of_mem_spots (ht : t.Listed) (s : Spot) (hs : s ∈ spots t video) :
    IsName s.name := by
  obtain ⟨-, -, ⟨content, hfile⟩, -⟩ := (mem_spots_iff video ht s).mp hs
  obtain ⟨place, name, hplace, hname⟩ := ht.named _ ((Tree.lookup_file_iff ht _ content).mp hfile)
  obtain ⟨-, hsame⟩ := List.append_inj' hplace rfl
  rwa [List.singleton_inj.mp hsame]

theorem filename_found (ht : t.Listed) (s : Spot) (hs : s ∈ spots t video) :
    (s.found d t).filename = s.name := by
  obtain ⟨-, hdir, -⟩ := (mem_spots_iff video ht s).mp hs
  have hfull : s.dir ≠ "" := by
    obtain ⟨hlocate, -⟩ := (Tree.find_eq_ok_iff _ _ _).mp hdir
    obtain ⟨start, parts, hstart, -⟩ := (Tree.locate_eq_ok_iff t _ _).mp hlocate
    exact ((Tree.startPieces_eq_ok_iff _ _).mp hstart).1
  have hname := Path.fileName_join s.dir s.name hfull (isName_of_mem_spots video ht s hs)
  change (Path.fileName? (Path.join s.dir s.name)).getD "" = s.name
  rw [hname, Option.getD_some]

/-- The language of a file is English where the file is taken for English, and only there. -/
theorem isEnglish_classify_iff (path : String) :
    (classify d t path).isEnglish = true ↔ (classify d t path).language = "en" := by
  have hund : ¬ Language.undetermined = "en" := by decide
  rw [classify]
  cases isEnglishName ((Path.fileName? path).getD "") with
  | true => simp
  | false => cases sampleLanguage d t path <;> simp [hund]

def DetectsEnglish (d : Language.Detector) (t : Tree) (path : String) : Prop :=
  ∃ content code, t.read path = .ok content ∧ d.detect (content.take 8192) = some code ∧
    Text.lower code = "en"

theorem sampleLanguage_eq_en_iff (path : String) :
    sampleLanguage d t path = some "en" ↔ DetectsEnglish d t path := by
  rw [sampleLanguage, DetectsEnglish]
  cases t.read path with
  | error e => simp
  | ok content => simp [sampleSize]

theorem isEnglish_classify (path : String) :
    (classify d t path).isEnglish = true ↔
      SaysEnglish (classify d t path).filename ∨ DetectsEnglish d t path := by
  rw [← isEnglishName_iff, ← sampleLanguage_eq_en_iff, classify]
  cases isEnglishName ((Path.fileName? path).getD "") with
  | true => simp
  | false => simp

/-- A file with the extension of subtitles, directly in a directory where those of a video may
lie. -/
def IsSubtitleAround (t : Tree) (video : String) (location : Location) : Prop :=
  ∃ place name content, location = place ++ [name] ∧
    (∃ dir ∈ spelledDirectories video, t.find dir = .ok (place, .directory)) ∧
    t.lookup location = some (.file content) ∧ HasExtension name "srt"

/-- What is found stands for the file at a location: it has the name of the file, in a directory
that is searched, and its path leads there, unless it is too long for the system. -/
def Found.StandsFor (t : Tree) (video : String) (f : Found) (location : Location) : Prop :=
  ∃ dir ∈ searchDirectories t video, ∃ place, t.find dir = .ok (place, .directory) ∧
    f.path = Path.join dir f.filename ∧ location = place ++ [f.filename] ∧
    (f.path.utf8ByteSize < Tree.maxPathSize →
      ∃ content, t.find f.path = .ok (location, .file content))

/-- English files stand in front, then names decide, and then the order of the directories. -/
def Found.StandsBefore (t : Tree) (video : String) (f g : Found) : Prop :=
  f.isEnglish = true ∧ g.isEnglish = false ∨
    f.isEnglish = g.isEnglish ∧ (f.filename < g.filename ∨
      f.filename = g.filename ∧ ∃ dir other, [dir, other].Sublist (searchDirectories t video) ∧
        f.path = Path.join dir f.filename ∧ g.path = Path.join other g.filename)

theorem mem_location_sortedSpots_iff (ht : t.Listed) (location : Location) :
    location ∈ (sortedSpots d t video).map Spot.location ↔ IsSubtitleAround t video location := by
  simp only [List.mem_map, mem_sortedSpots_iff, mem_spots_iff video ht, searchDirectories_eq]
  constructor
  · rintro ⟨s, ⟨hdir, hplace, ⟨content, hfile⟩, hext⟩, rfl⟩
    have hspelled := (of_mem_distinctDirectories t [] _ s.dir hdir).1
    exact ⟨s.place, s.name, content, rfl, ⟨s.dir, hspelled, hplace⟩, hfile, hext⟩
  · rintro ⟨place, name, content, rfl, ⟨dir, hdir, hplace⟩, hfile, hext⟩
    obtain ⟨other, hother, hsame⟩ := exists_mem_distinctDirectories t [] _ dir place hdir
      ((directoryAt_eq_some_iff t dir place).mpr hplace) (List.not_mem_nil)
    exact ⟨⟨other, place, name⟩,
      ⟨hother, (directoryAt_eq_some_iff t other place).mp hsame, ⟨content, hfile⟩, hext⟩, rfl⟩

theorem standsFor_found (ht : t.Listed) (s : Spot) (hs : s ∈ spots t video) :
    (s.found d t).StandsFor t video s.location := by
  obtain ⟨hdir, hplace, ⟨content, hfile⟩, -⟩ := (mem_spots_iff video ht s).mp hs
  have hname := filename_found video d ht s hs
  refine ⟨s.dir, hdir, s.place, hplace, by rw [hname]; rfl, by rw [hname]; rfl, fun hshort => ?_⟩
  exact ⟨content, Tree.find_join s.dir s.name s.place _ hplace (isName_of_mem_spots video ht s hs)
    hfile hshort⟩

/-- What is sorted before something else does stand before it: English comes first, then the
names decide, and one name in two directories goes by the order in which these are searched. -/
theorem standsBefore_found (ht : t.Listed) (a b : Spot) (ha : a ∈ spots t video)
    (hb : b ∈ spots t video) (hle : (a.found d t).before (b.found d t) = true)
    (htie : (b.found d t).before (a.found d t) = true → a.Before t video b) :
    (a.found d t).StandsBefore t video (b.found d t) := by
  have hname := filename_found video d ht a ha
  have hname' := filename_found video d ht b hb
  rcases (Found.before_iff _ _).mp hle with hfirst | ⟨hsame, hnames⟩
  · exact .inl hfirst
  refine .inr ⟨hsame, ?_⟩
  rcases lt_or_eq_of_le hnames with hless | heq
  · exact .inl hless
  refine .inr ⟨heq, ?_⟩
  have hback : (b.found d t).before (a.found d t) = true :=
    (Found.before_iff _ _).mpr (.inr ⟨hsame.symm, le_of_eq heq.symm⟩)
  rcases htie hback with ⟨-, hless⟩ | ⟨-, hdirs⟩
  · rw [hname, hname'] at heq
    exact absurd heq hless.ne
  · exact ⟨a.dir, b.dir, hdirs, by rw [hname]; rfl, by rw [hname']; rfl⟩

theorem pairwise_standsBefore (ht : t.Listed) :
    (scan d t video).Pairwise (Found.StandsBefore t video) := by
  rw [scan_eq, List.pairwise_map]
  have hsorted := pairwise_mergeSort_and
    (fun a b c => Found.before_trans (a.found d t) (b.found d t) (c.found d t))
    (fun a b => Found.before_total (a.found d t) (b.found d t)) (pairwise_spots video ht)
  refine List.Pairwise.imp_of_mem (fun {a b} ha hb hab => ?_) hsorted
  rw [mem_sortedSpots_iff] at ha hb
  exact standsBefore_found video d ht a b ha hb hab.1 hab.2

/-- The pass over the files takes the first of the scan as it is. -/
theorem filesystemPass_eq_head (r : Resolver) :
    r.filesystemPass t video =
      (scan r.detector t video).head?.map fun f => ⟨f.path, f.language, .filesystem⟩ := by
  cases hscan : scan r.detector t video with
  | nil => simp [Resolver.filesystemPass, hscan]
  | cons first rest =>
    have hfirst : first ∈ scan r.detector t video := by simp [hscan]
    rw [scan_eq] at hfirst
    obtain ⟨s, -, rfl⟩ := List.mem_map.mp hfirst
    have henglish := isEnglish_head_scan r.detector t video _ rest hscan
    have hlanguage := isEnglish_classify_iff r.detector (t := t) s.path
    rw [hscan] at henglish
    rw [r.filesystemPass_cons t video _ rest hscan, ← henglish, List.head?_cons, Option.map_some]
    split
    · rename_i hen
      rw [show (s.found r.detector t).language = "en" from hlanguage.mp hen]
    · rfl

/-- A scan finds every subtitle around a video once and nothing else, also where several
spellings lead to one directory. What it finds is in order; a file is taken for English where its
language is English, and that is where its name says so or its first bytes do. The pass over the
files takes the first of the scan with the language that the scan gives it. -/
theorem scan_lists_each_subtitle_once (d : Language.Detector) (t : Tree) (video : String)
    (ht : t.Listed) :
    (∃ locations : List Location, locations.Nodup ∧
      (∀ location, location ∈ locations ↔ IsSubtitleAround t video location) ∧
      List.Forall₂ (Found.StandsFor t video) (scan d t video) locations) ∧
    (scan d t video).Pairwise (Found.StandsBefore t video) ∧
    (∀ f ∈ scan d t video, (f.isEnglish = true ↔ f.language = "en") ∧
      (f.isEnglish = true ↔ SaysEnglish f.filename ∨ DetectsEnglish d t f.path)) ∧
    ∀ r : Resolver, r.filesystemPass t video =
      (scan r.detector t video).head?.map fun f => ⟨f.path, f.language, .filesystem⟩ := by
  refine ⟨⟨(sortedSpots d t video).map Spot.location, ?_, mem_location_sortedSpots_iff video d ht,
    ?_⟩, pairwise_standsBefore video d ht, fun f hf => ?_, filesystemPass_eq_head video⟩
  · exact ((List.mergeSort_perm _ _).map Spot.location).nodup_iff.mpr
      (nodup_location_spots video ht)
  · rw [scan_eq, List.forall₂_map_left_iff, List.forall₂_map_right_iff, List.forall₂_same]
    exact fun s hs => standsFor_found video d ht s ((mem_sortedSpots_iff video d s).mp hs)
  · rw [scan_eq] at hf
    obtain ⟨s, -, rfl⟩ := List.mem_map.mp hf
    exact ⟨isEnglish_classify_iff d s.path, isEnglish_classify d s.path⟩

end

def subsTree : Tree :=
  ⟨[(["Subs"], .directory), (["Subs", "b.EN.SRT"], .file []), (["a.srt"], .file [])]⟩

theorem listed_subsTree : subsTree.Listed where
  once := by decide
  named := by
    have hname : ∀ name ∈ ["Subs", "b.EN.SRT", "a.srt"], IsName name := by
      intro name hname
      simp only [List.mem_cons, List.not_mem_nil, or_false] at hname
      rcases hname with rfl | rfl | rfl <;>
        exact ⟨by decide, by decide, by decide, by decide, by decide⟩
    intro e he
    simp only [subsTree, List.mem_cons, List.not_mem_nil, or_false] at he
    rcases he with rfl | rfl | rfl
    · exact ⟨[], "Subs", rfl, hname _ (by simp)⟩
    · exact ⟨["Subs"], "b.EN.SRT", rfl, hname _ (by simp)⟩
    · exact ⟨[], "a.srt", rfl, hname _ (by simp)⟩

theorem scan_lists_each_subtitle_once_subsTree :
    subsTree.Listed ∧ (spelledDirectories "Subs.mkv").count "./Subs" = 2 ∧
      ∃ locations : List Location, locations.Nodup ∧ ["Subs", "b.EN.SRT"] ∈ locations ∧
        List.Forall₂ (Found.StandsFor subsTree "Subs.mkv") (scan .standard subsTree "Subs.mkv")
          locations := by
  obtain ⟨⟨locations, honce, hmem, hfound⟩, -⟩ :=
    scan_lists_each_subtitle_once .standard subsTree "Subs.mkv" listed_subsTree
  refine ⟨listed_subsTree, by decide, locations, honce, (hmem _).mpr ?_, hfound⟩
  exact ⟨["Subs"], "b.EN.SRT", [], rfl, ⟨"./Subs", by decide, by decide⟩, by decide, "SRT",
    by decide, by decide⟩

end Subtitling.Source
