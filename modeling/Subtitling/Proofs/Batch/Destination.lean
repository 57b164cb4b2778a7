import Subtitling.Proofs.Batch.Requests
import Subtitling.Proofs.Files.Change
import Subtitling.Proofs.Files.Components

/-!
Where the subtitle of an item goes. It is meant to lie next to the video, under a name that tells
the language and the kind of track. But the target language of an item is any text, which nothing
checks before it is put into the name: one with a slash takes the subtitle out of the directory.
Where there is none, two subtitles of one video have one name just where the texts with the marks
behind them are the same.
-/

namespace Subtitling

open Files.Path (isIdle pieces components IsChildOf)

def marks (hi forced : Bool) : String :=
  (if hi then ".hi" else "") ++ (if forced then ".forced" else "")

/-- A text that could be a shorter one with marks behind it. -/
def EndsInMark (text : List Char) : Prop := ".hi".toList <:+ text ∨ ".forced".toList <:+ text

instance (text : List Char) : Decidable (EndsInMark text) := inferInstanceAs (Decidable (_ ∨ _))

theorem EndsInMark.append {text : List Char} (h : EndsInMark text) (front : List Char) :
    EndsInMark (front ++ text) :=
  h.imp (·.trans (List.suffix_append front text)) (·.trans (List.suffix_append front text))

/-- What marks have in front of other marks is nothing, where they are the same, or ends in a
mark. -/
theorem marks_eq_append (hi forced otherHi otherForced : Bool) (front : List Char)
    (h : (marks hi forced).toList = front ++ (marks otherHi otherForced).toList) :
    (front = [] ∧ hi = otherHi ∧ forced = otherForced) ∨ EndsInMark front := by
  have hall : ∀ hi forced otherHi otherForced : Bool,
      let front := (marks hi forced).toList.take
        ((marks hi forced).toList.length - (marks otherHi otherForced).toList.length)
      (marks hi forced).toList = front ++ (marks otherHi otherForced).toList →
        (front = [] ∧ hi = otherHi ∧ forced = otherForced) ∨ EndsInMark front := by
    decide
  have hfront : front = (marks hi forced).toList.take
      ((marks hi forced).toList.length - (marks otherHi otherForced).toList.length) := by
    rw [h]
    simp
  rw [hfront] at h ⊢
  exact hall hi forced otherHi otherForced h

/-- Texts that end in no mark can be told from the marks behind them. -/
theorem append_marks_inj (text other : List Char) (hi forced otherHi otherForced : Bool)
    (htext : ¬ EndsInMark text) (hother : ¬ EndsInMark other) :
    text ++ (marks hi forced).toList = other ++ (marks otherHi otherForced).toList ↔
      text = other ∧ hi = otherHi ∧ forced = otherForced := by
  constructor
  · intro h
    rcases List.append_eq_append_iff.mp h with ⟨front, rfl, hmarks⟩ | ⟨front, rfl, hmarks⟩
    · rcases marks_eq_append hi forced otherHi otherForced front hmarks with ⟨rfl, rfl, rfl⟩ | hends
      · exact ⟨(List.append_nil text).symm, rfl, rfl⟩
      · exact absurd (hends.append text) hother
    · rcases marks_eq_append otherHi otherForced hi forced front hmarks with ⟨rfl, rfl, rfl⟩ | hends
      · exact ⟨List.append_nil other, rfl, rfl⟩
      · exact absurd (hends.append other) htext
  · rintro ⟨rfl, rfl, rfl⟩
    rfl

theorem Request.destinationName_eq (r : Request) (stem : String) :
    r.destinationName stem = stem ++ "." ++ r.target ++ marks r.hi r.forced ++ ".srt" := by
  simp only [destinationName, marks, String.append_assoc]

theorem Request.destinationName_inj (r other : Request) (stem : String) :
    r.destinationName stem = other.destinationName stem ↔
      r.target ++ marks r.hi r.forced = other.target ++ marks other.hi other.forced := by
  rw [destinationName_eq, destinationName_eq, ← String.toList_inj, ← String.toList_inj]
  simp only [String.toList_append, List.append_assoc, List.append_cancel_left_eq]
  rw [← List.append_assoc, ← List.append_assoc, List.append_cancel_right_eq]

/-- A slash in the name of a subtitle is one of the target. -/
theorem Request.mem_destinationName_iff (r : Request) (stem : String) (hslash : '/' ∉ stem.toList) :
    '/' ∈ (r.destinationName stem).toList ↔ '/' ∈ r.target.toList := by
  have hmarks : ∀ hi forced : Bool, '/' ∉ (marks hi forced).toList := by decide
  simp [destinationName_eq, hslash, hmarks]

section

variable (r : Request) (stem : String) (hstem : stem ≠ "") (hslash : '/' ∉ stem.toList)

include hstem hslash

/-- The name of a subtitle begins with more than a dot. -/
theorem exists_pieces_destinationName :
    ∃ first more, pieces (r.destinationName stem) = first :: more ∧
    isIdle first = false := by
  obtain ⟨more, hpieces⟩ := Files.Path.exists_pieces_eq (r.destinationName stem)
  refine ⟨_, more, hpieces, Files.Path.isIdle_of_length _ ?_⟩
  have hfront (c : Char) (hc : c ∈ stem.toList ++ ['.']) : decide (c ≠ '/') = true := by
    rw [decide_eq_true_eq]
    rintro rfl
    simp [hslash] at hc
  have hchars : (r.destinationName stem).toList =
      (stem.toList ++ ['.']) ++ (r.target ++ marks r.hi r.forced ++ ".srt").toList := by
    rw [Request.destinationName_eq]
    simp
  have hpos : 0 < stem.toList.length := List.length_pos_iff.mpr (by simpa using hstem)
  rw [hchars, List.takeWhile_append_of_pos hfront, String.toList_ofList, List.length_append,
    List.length_append]
  have hdot : ['.'].length = 1 := rfl
  omega

theorem exists_components_destinationName_iff :
    (∃ name, components (r.destinationName stem) = [name]) ↔ '/' ∉ r.target.toList := by
  obtain ⟨first, more, hpieces, hfirst⟩ := exists_pieces_destinationName r stem hstem hslash
  have hending : (r.destinationName stem).toList =
      (stem ++ "." ++ r.target ++ marks r.hi r.forced).toList ++ ".srt".toList := by
    rw [Request.destinationName_eq, String.toList_append]
  obtain ⟨before, last, hlast, hname, -⟩ :=
    Files.endsInName_of_ending _ _ ".srt".toList (by decide) (by decide) hending
  rw [Files.Path.components_eq_singleton_iff _ first more hpieces hfirst before last hlast hname,
    Request.mem_destinationName_iff r stem hslash]

omit hstem in
theorem components_destinationName (htarget : '/' ∉ r.target.toList) :
    components (r.destinationName stem) = [r.destinationName stem] := by
  have hplain : '/' ∉ (r.destinationName stem).toList := by
    rwa [Request.mem_destinationName_iff r stem hslash]
  refine Files.Path.components_of_not_mem _ hplain (Files.Path.isIdle_of_length _ ?_)
  rw [Request.destinationName_eq, String.toList_append, List.length_append]
  exact Nat.lt_of_lt_of_le (by decide) (Nat.le_add_left ".srt".toList.length _)

/-- A name without slashes has the components of no other name. -/
theorem components_destinationName_inj (other : Request) (htarget : '/' ∉ r.target.toList) :
    components (r.destinationName stem) = components (other.destinationName stem) ↔
      r.target ++ marks r.hi r.forced = other.target ++ marks other.hi other.forced := by
  rw [← Request.destinationName_inj r other stem]
  constructor
  · intro h
    have hname := components_destinationName r stem hslash htarget
    have hother : '/' ∉ other.target.toList :=
      (exists_components_destinationName_iff other stem hstem hslash).mp ⟨_, h.symm.trans hname⟩
    rw [hname, components_destinationName other stem hslash hother] at h
    exact List.singleton_inj.mp h
  · intro h
    rw [h]

theorem components_destination (video dir : String) (hdir : Files.Path.parent? video = some dir)
    (hvideo : Files.Path.stem? video = some stem) :
    components (r.destination video) = components dir ++ components (r.destinationName stem) := by
  obtain ⟨first, more, hpieces, hfirst⟩ := exists_pieces_destinationName r stem hstem hslash
  rw [Request.destination, hdir, hvideo]
  exact Files.Path.components_join dir _ first more hpieces hfirst

end

namespace Batch

/-- What a request has from its item besides the ids. -/
theorem of_request_eq_ok (item : Item) (raw : String) (r : Request) (h : item.request raw = .ok r) :
    (present item.targetLanguage).map Language.fold = some r.target ∧ r.hi = item.hi ∧
      r.forced = item.forced := by
  obtain ⟨type, source, target, media, -, -, htarget, -, rfl⟩ := (request_eq_ok_iff item raw r).mp h
  exact ⟨by rw [htarget]; rfl, rfl, rfl⟩

/-- The subtitle of an item is put into the directory of the video under its name. It lies right
there, as it should, unless the target has a slash, which is not looked for. A name without slashes
is shared just where the targets with their marks are the same text; that a target may itself end in
a mark lies in how names are made. -/
theorem destination_beside_video (item : Item) (raw : String) (r : Request) (video file : String)
    (hrequest : item.request raw = .ok r) (hvideo : Files.Path.fileName? video = some file) :
    ∃ dir stem, Files.Path.parent? video = some dir ∧ Files.Path.stem? video = some stem ∧
      components video = components dir ++ [file] ∧
      let name := stem ++ "." ++ r.target ++ marks item.hi item.forced ++ ".srt"
      (present item.targetLanguage).map Language.fold = some r.target ∧
      components (r.destination video) = components dir ++ components name ∧
      (IsChildOf (r.destination video) dir ↔ '/' ∉ r.target.toList) ∧
      ('/' ∉ r.target.toList → components name = [name]) ∧
      ∀ (other : Item) (raw' : String) (s : Request), other.request raw' = .ok s →
        let same := components (r.destination video) = components (s.destination video)
        (same ↔ components name =
          components (stem ++ "." ++ s.target ++ marks other.hi other.forced ++ ".srt")) ∧
        ('/' ∉ r.target.toList →
          (same ↔ r.target ++ marks item.hi item.forced =
            s.target ++ marks other.hi other.forced)) ∧
        ('/' ∉ r.target.toList → ¬ EndsInMark r.target.toList → ¬ EndsInMark s.target.toList →
          (same ↔ r.target = s.target ∧ item.hi = other.hi ∧ item.forced = other.forced)) := by
  obtain ⟨dir, hdir, hbeside⟩ := Files.Path.parent_of_fileName video file hvideo
  obtain ⟨stem, hstem, hfull, -, hslash⟩ := Files.Path.stem_of_fileName video file hvideo
  obtain ⟨htarget, hhi, hforced⟩ := of_request_eq_ok item raw r hrequest
  have hplace := components_destination r stem hfull hslash video dir hdir hstem
  rw [← hhi, ← hforced]
  refine ⟨dir, stem, hdir, hstem, hbeside, ?_⟩
  intro name
  have hname : r.destinationName stem = name := r.destinationName_eq stem
  rw [← hname]
  refine ⟨htarget, hplace, ?_, components_destinationName r stem hslash, ?_⟩
  · rw [← exists_components_destinationName_iff r stem hfull hslash, IsChildOf, hplace]
    simp only [List.append_cancel_left_eq]
  · intro other raw' s hother same
    obtain ⟨-, hotherHi, hotherForced⟩ := of_request_eq_ok other raw' s hother
    have hsame : same ↔ components (r.destinationName stem) =
      components (s.destinationName stem) := by
      rw [← List.append_cancel_left_eq (components dir), ← hplace,
        ← components_destination s stem hfull hslash video dir hdir hstem]
    rw [← hotherHi, ← hotherForced, hsame, ← s.destinationName_eq stem]
    refine ⟨Iff.rfl, components_destinationName_inj r stem hfull hslash s, fun hplain hr hs => ?_⟩
    rw [components_destinationName_inj r stem hfull hslash s hplain, ← String.toList_inj,
      String.toList_append, String.toList_append, append_marks_inj _ _ _ _ _ _ hr hs,
        String.toList_inj]

def filmItem (target : String) (hi : Bool) : Item where
  type := some "movie"
  seriesId := none
  episodeId := none
  movieId := some 7
  sourceLanguage := some "en"
  targetLanguage := some target
  subtitlePath := none
  forced := false
  hi := hi

theorem destination_beside_video_film :
    let r := Request.make (.movie 7) "en" " FR " false true none
    (filmItem " FR " true).request "" = .ok r ∧
      Files.Path.fileName? "v/Film.mkv" = some "Film.mkv" ∧
        Files.Path.parent? "v/Film.mkv" = some "v" ∧
      r.target = "fr" ∧ IsChildOf (r.destination "v/Film.mkv") "v" := by
  intro r
  have hrequest : (filmItem " FR " true).request "" = .ok r := by decide +kernel
  have hvideo : Files.Path.fileName? "v/Film.mkv" = some "Film.mkv" := by decide +kernel
  have hparent : Files.Path.parent? "v/Film.mkv" = some "v" := by decide +kernel
  have htarget : r.target = "fr" := by decide +kernel
  obtain ⟨dir, stem, hdir, -, -, -, -, hchild, -⟩ :=
    destination_beside_video (filmItem " FR " true) "" r "v/Film.mkv" "Film.mkv" hrequest hvideo
  obtain rfl := Option.some.inj (hparent.symm.trans hdir)
  exact ⟨hrequest, hvideo, hparent, htarget, hchild.mpr (by rw [htarget]; decide)⟩

/-- A slash in the target is let through, and the subtitle does not lie next to the video. A mark in
the target is as good as one behind it. -/
theorem destination_below_directory :
    let r := Request.make (.movie 7) "en" "fr/x" false false none
    let marked := Request.make (.movie 7) "en" "fr.hi" false false none
    let hearing := Request.make (.movie 7) "en" "fr" false true none
    ((filmItem "fr/x" false).request "" = .ok r ∧ Files.Path.parent? "v/Film.mkv" = some "v" ∧
        r.destination "v/Film.mkv" = "v/Film.fr/x.srt" ∧
          ¬ IsChildOf (r.destination "v/Film.mkv") "v") ∧
      (filmItem "fr.hi" false).request "" = .ok marked ∧
        (filmItem "fr" true).request "" = .ok hearing ∧
        marked.destination "v/Film.mkv" = hearing.destination "v/Film.mkv" ∧
        marked.target ≠ hearing.target ∧ marked.hi ≠ hearing.hi := by
  intro r marked hearing
  have hcomponents : components (r.destination "v/Film.mkv") = ["v", "Film.fr", "x.srt"] ∧
      components "v" = ["v"] := by
    decide +kernel
  refine ⟨⟨by decide +kernel, by decide +kernel, by decide +kernel, ?_⟩, by decide +kernel⟩
  rintro ⟨name, hname⟩
  rw [hcomponents.1, hcomponents.2] at hname
  cases hname

end Batch

end Subtitling
