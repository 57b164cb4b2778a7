import Subtitling.Files.Path
import Subtitling.Proofs.Text.Split

/-!
Paths taken apart and put together again. What a path lies in is the front of its pieces, up to
the last one that names something, so the directories above a path are fronts of it, each shorter
than the one before.
-/

namespace Subtitling.Files.Path

def isIdle (piece : String) : Bool := piece.isEmpty || piece = "."

/-- What names nothing has at most one character. -/
theorem isIdle_of_length (piece : String) (h : 1 < piece.toList.length) : isIdle piece = false := by
  rw [isIdle, Bool.or_eq_false_iff, Bool.eq_false_iff, decide_eq_false_iff_not]
  constructor
  · intro hempty
    rw [String.isEmpty_iff.mp hempty] at h
    exact absurd h (by decide)
  · rintro rfl
    exact absurd h (by decide)

theorem pieces_ne_nil (path : String) : pieces path ≠ [] := by
  rw [pieces, ne_eq, List.map_eq_nil_iff]
  exact Text.splitWhen_ne_nil _ _

/-- The first piece of a path goes up to its first slash. -/
theorem exists_pieces_eq (path : String) :
    ∃ more, pieces path = String.ofList (path.toList.takeWhile (· ≠ '/')) :: more := by
  obtain ⟨more, hsplit⟩ := Text.exists_splitWhen_eq (fun c => decide (c = '/')) path.toList
  refine ⟨more.map String.ofList, ?_⟩
  rw [pieces, hsplit, List.map_cons]
  simp

theorem pieces_of_not_mem (path : String) (h : '/' ∉ path.toList) : pieces path = [path] := by
  rw [pieces, Text.splitWhen_of_none]
  · simp
  · intro c hc
    rw [decide_eq_false_iff_not]
    rintro rfl
    exact h hc

theorem pieces_append (front rest : String) :
    pieces (front ++ "/" ++ rest) = pieces front ++ pieces rest := by
  have hslash : "/".toList = ['/'] := rfl
  rw [pieces, String.toList_append, String.toList_append, hslash, List.append_assoc,
    List.singleton_append, Text.splitWhen_append_cons _ _ _ '/' (by decide), List.map_append]
  rfl

theorem not_mem_of_mem_pieces (path piece : String) (h : piece ∈ pieces path) :
    '/' ∉ piece.toList := by
  obtain ⟨cs, hcs, rfl⟩ := List.mem_map.mp h
  rw [String.toList_ofList]
  intro hslash
  have hno := (Text.mem_of_mem_splitWhen _ _ cs hcs '/' hslash).2
  cases hno

theorem pieces_ofPieces (parts : List String) (hne : parts ≠ [])
    (h : ∀ piece ∈ parts, '/' ∉ piece.toList) : pieces (ofPieces parts) = parts := by
  induction parts with
  | nil => exact absurd rfl hne
  | cons piece rest ih =>
    have hpiece := pieces_of_not_mem piece (h piece (by simp))
    cases rest with
    | nil => rw [ofPieces, String.intercalate_singleton, hpiece]
    | cons next more =>
      have hrest := ih nofun fun other hother => h other (by simp [hother])
      rw [ofPieces] at hrest
      rw [ofPieces, String.intercalate_cons_cons, pieces_append, hpiece, hrest]
      rfl

/-- Joining the pieces of a path gives the path back, as the pieces between its slashes keep
every character but these. -/
theorem ofPieces_pieces (path : String) : ofPieces (pieces path) = path := by
  have hchars : ∀ cs : List Char,
      ofPieces ((Text.splitWhen (· = '/') cs).map String.ofList) = String.ofList cs := by
    intro cs
    induction cs with
    | nil => rfl
    | cons c rest ih =>
      rw [ofPieces] at ih ⊢
      cases hpieces : Text.splitWhen (· = '/') rest with
      | nil => exact absurd hpieces (Text.splitWhen_ne_nil _ rest)
      | cons piece more =>
        rw [hpieces, List.map_cons] at ih
        by_cases hc : c = '/'
        · subst hc
          have hslash : String.ofList [] ++ "/" ++ String.ofList rest =
            String.ofList ('/' :: rest) := by
            rw [← String.toList_inj]
            simp
          simp only [Text.splitWhen, decide_true, if_true, hpieces, List.map_cons,
            String.intercalate_cons_cons, ih, hslash]
        · have hcons : String.ofList (c :: piece) = String.ofList [c] ++ String.ofList piece := by
            rw [← String.ofList_append]
            rfl
          simp only [Text.splitWhen, hc, decide_false, Bool.false_eq_true, if_false, hpieces,
            List.map_cons, hcons, String.intercalate_cons_append, ih]
          rw [← String.ofList_append]
          rfl
  rw [pieces, hchars, String.ofList_toList]

/-- A path is the front of its pieces and what comes behind a slash. -/
theorem eq_append_of_pieces (path : String) (front more : List String)
    (hpieces : pieces path = front ++ more) (hfront : front ≠ []) (hmore : more ≠ []) :
    path = ofPieces front ++ "/" ++ ofPieces more ∧ pieces (ofPieces front) = front := by
  constructor
  · rw [← ofPieces_pieces path, hpieces, ofPieces, ofPieces, ofPieces,
      String.intercalate_append_of_ne_nil hfront hmore]
  · apply pieces_ofPieces front hfront
    intro piece hpiece
    exact not_mem_of_mem_pieces path piece (by simp [hpieces, hpiece])

/-- A relative path is put behind the pieces of a path; the empty piece behind a slash makes room
for it. -/
theorem pieces_join_of_relative (base path : String) (hbase : base ≠ "")
    (hpath : isAbsolute path = false) :
    pieces (join base path) = pieces base ++ pieces path ∨
      ∃ front, pieces base = front ++ [""] ∧ pieces (join base path) = front ++ pieces path := by
  have hempty : base.isEmpty = false := by simpa using hbase
  rw [join, hpath, hempty]
  simp only [Bool.or_self, Bool.false_eq_true, if_false]
  split
  · rename_i hlast
    obtain ⟨cs, hcs⟩ := List.getLast?_eq_some_iff.mp hlast
    have hsplit : base = String.ofList cs ++ "/" := by
      rw [← String.toList_inj, String.toList_append, String.toList_ofList, hcs]
      rfl
    refine .inr ⟨pieces (String.ofList cs), ?_, ?_⟩
    · have hpieces := pieces_append (String.ofList cs) ""
      rwa [String.append_empty, ← hsplit] at hpieces
    · rw [hsplit, pieces_append]
  · exact .inl (pieces_append base path)

theorem length_pieces_le (path : String) : (pieces path).length ≤ path.length + 1 := by
  have hchars : ∀ cs : List Char, (Text.splitWhen (· = '/') cs).length ≤ cs.length + 1 := by
    intro cs
    induction cs with
    | nil => exact Nat.le_refl 1
    | cons c rest ih =>
      rw [Text.splitWhen]
      split
      · simpa using ih
      · split
        · simp
        · rename_i piece more hpieces
          rw [hpieces] at ih
          exact Nat.le_trans ih (Nat.le_succ _)
  rw [pieces, List.length_map, ← String.length_toList]
  exact hchars path.toList

/-- Only pieces that name nothing are dropped, and all of them but one in front that is a dot. -/
theorem exists_dropIdle (parts : List String) :
    ∃ idles, parts = idles ++ dropIdle parts ∧ (∀ i ∈ idles, isIdle i = true) ∧
      ∀ first rest, dropIdle parts = first :: rest →
        isIdle first = false ∨ first = "." ∧ rest = [] := by
  induction parts using dropIdle.induct with
  | case1 => exact ⟨[], rfl, nofun, nofun⟩
  | case2 front hempty =>
    refine ⟨[front], by simp [dropIdle, hempty], ?_, by simp [dropIdle, hempty]⟩
    intro i hi
    obtain rfl := List.mem_singleton.mp hi
    simp [isIdle, hempty]
  | case3 front hfull =>
    refine ⟨[], by simp [dropIdle, hfull], nofun, ?_⟩
    intro first rest h
    simp only [dropIdle, hfull, Bool.false_eq_true, if_false, List.cons.injEq] at h
    obtain ⟨rfl, rfl⟩ := h
    by_cases hdot : front = "."
    · exact .inr ⟨hdot, rfl⟩
    · exact .inl (by simp [isIdle, hfull, hdot])
  | case4 piece rest hrest hidle ih =>
    obtain ⟨idles, hidles, hall, hfirst⟩ := ih
    have hdrop : dropIdle (piece :: rest) = dropIdle rest := by
      rw [dropIdle.eq_3 piece rest hrest, if_pos hidle]
    rw [hdrop]
    refine ⟨piece :: idles, by rw [List.cons_append, ← hidles], ?_, hfirst⟩
    intro i hi
    rcases List.mem_cons.mp hi with rfl | hmem
    · exact hidle
    · exact hall i hmem
  | case5 piece rest hrest hidle =>
    have hdrop : dropIdle (piece :: rest) = piece :: rest := by
      rw [dropIdle.eq_3 piece rest hrest, if_neg hidle]
    rw [hdrop]
    refine ⟨[], rfl, nofun, ?_⟩
    intro first others h
    obtain ⟨rfl, -⟩ := List.cons.inj h
    exact .inl (Bool.eq_false_iff.mpr hidle)

/-- A last piece that names something is kept with all before it. -/
theorem named_of_pieces (path : String) (before : List String) (name : String)
    (hpieces : pieces path = before ++ [name]) (hname : isIdle name = false) :
    named path = name :: before.reverse := by
  have hfull : name.isEmpty = false ∧ name ≠ "." := by simpa [isIdle] using hname
  rw [named, hpieces, List.reverse_append, List.reverse_singleton, List.singleton_append]
  cases hbefore : before.reverse with
  | nil => rw [dropIdle.eq_2, if_neg (by simp [hfull.1])]
  | cons last rest =>
    rw [dropIdle.eq_3 name (last :: rest) nofun, if_neg (by simp [hfull.1, hfull.2])]

/-- What a path lies in: all pieces before the last, without those at their end that name
nothing. If that leaves none, it is the root or the working directory. -/
theorem parent_cases (path : String) (before : List String) (name : String)
    (hpieces : pieces path = before ++ [name]) (hname : isIdle name = false) :
    (parent? path = some (if isAbsolute path then "/" else "") ∧ ∀ i ∈ before, isIdle i = true) ∨
      ∃ front idles, before = front ++ idles ∧ (∀ i ∈ idles, isIdle i = true) ∧
        parent? path = some (ofPieces front) ∧
        (front = ["."] ∨ ∃ most last, front = most ++ [last] ∧ isIdle last = false) := by
  have hnamed := named_of_pieces path before name hpieces hname
  obtain ⟨idles, hidles, hall, hfirst⟩ := exists_dropIdle before.reverse
  have hbefore : before = (dropIdle before.reverse).reverse ++ idles.reverse := by
    rw [← List.reverse_append, ← hidles, List.reverse_reverse]
  rw [parent?, hnamed]
  simp only
  cases hdrop : dropIdle before.reverse with
  | nil =>
    rw [hdrop] at hbefore
    refine .inl ⟨rfl, fun i hi => hall i ?_⟩
    rw [hbefore] at hi
    simpa using hi
  | cons last rest =>
    rw [hdrop] at hbefore
    refine .inr ⟨(last :: rest).reverse, idles.reverse, hbefore,
      fun i hi => hall i (by simpa using hi), rfl, ?_⟩
    rcases hfirst last rest hdrop with hlast | ⟨rfl, rfl⟩
    · exact .inr ⟨rest.reverse, last, List.reverse_cons, hlast⟩
    · exact .inl rfl

end Subtitling.Files.Path
