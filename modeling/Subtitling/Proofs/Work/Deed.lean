import Subtitling.Proofs.Files.Apart
import Subtitling.Proofs.Work.Failure

/-!
What a unit does, told from the tree in which it is begun. The work on a unit has parts, and
others may have their turn between two of them. What is left of it after some parts still follows
from the first tree, as long as nobody else writes where the unit reads and writes, and the
backend answers the same at any time. A run is nothing but these parts without any other turns
between them.
-/

namespace Subtitling.Work

open Files (Change Location View)

/-- A backend seen as a function of the lines and of what it is told about the media. -/
abbrev Answering :=
  List String → Service.Metadata → Except Service.Error (List Subtitle.Line)

/-- Surroundings in which the backend answers the same at any time, nobody cancels, and every
entry of the history is recorded. -/
structure Surroundings.Steady (around : Surroundings) (answer : Answering) : Prop where
  answers : ∀ task s, s.cancelled = false →
    (around.backend task s).1 = answer task.texts task.metadata
  uncancelled : ∀ task s, s.cancelled = false → (around.backend task s).2.cancelled = false
  recorded : ∀ n, around.recordingFault n = none

theorem toList_join (base path : String) :
    ∃ front, (Files.Path.join base path).toList = front ++ path.toList := by
  rw [Files.Path.join]
  split
  · exact ⟨[], rfl⟩
  · split
    · exact ⟨base.toList, String.toList_append⟩
    · exact ⟨(base ++ "/").toList, String.toList_append⟩

theorem WorkUnit.endsInName_destination (u : WorkUnit) : Files.EndsInName u.destination := by
  have hname (stem : String) :
      ∃ front, (u.request.destinationName stem).toList = front ++ ".srt".toList :=
    ⟨_, by rw [Request.destinationName, String.toList_append]⟩
  obtain ⟨front, hfront⟩ : ∃ front, u.destination.toList = front ++ ".srt".toList := by
    rw [destination, Request.destination]
    obtain ⟨front, hfront⟩ := hname ((Files.Path.stem? u.media.videoPath).getD "")
    split
    · rename_i dir hdir
      obtain ⟨before, hbefore⟩ := toList_join dir
        (u.request.destinationName ((Files.Path.stem? u.media.videoPath).getD ""))
      exact ⟨before ++ front, by rw [hbefore, hfront, List.append_assoc]⟩
    · exact ⟨front, hfront⟩
  exact Files.endsInName_of_ending u.destination front _ (by decide) (by decide) hfront

/-- What working on a unit comes to: how it ends, what it does to the tree, and what it adds to the
history. -/
structure Deed where
  result : Except Error String
  change : Change
  added : List Catalog.Entry

namespace WorkUnit

section

variable (u : WorkUnit) (around : Surroundings) (answer : Answering) (files : Files.Tree)

def place (look : View) : Location := (look.denoted u.destination).toOption.getD Files.root

def keeping (content : List UInt8) : Deed :=
  let place := u.place files.lookup
  let blocked := decide (files.lookup place = some .directory)
  let change := Files.writeChange around.diskFaults place content blocked
  match Files.writeResult around.diskFaults u.destination blocked with
  | .error e => ⟨.error (.persist u.destination e.message), change, []⟩
  | .ok () => ⟨.ok u.destination, change, [u.entry around.now]⟩

def translating (track : Subtitle.Track) : Deed :=
  match answer track.plainTexts u.metadata with
  | .error e => ⟨.error (.service e), .nothing, []⟩
  | .ok lines => u.keeping around files (content track lines)

def deed : Deed :=
  match u.load files with
  | .error e => ⟨.error e, .nothing, []⟩
  | .ok track =>
    if track.cues.isEmpty then ⟨.ok u.destination, .nothing, []⟩
    else u.translating around answer files track

/-- The parts of the work that are behind have left this much of the deed to be done. -/
def Owes : Part → Prop
  | .begun => True
  | .read track => u.deed around answer files = u.translating around answer files track
  | .translated track lines =>
    u.deed around answer files = u.keeping around files (content track lines)
  | .written => (u.deed around answer files).result = .ok u.destination ∧
      (u.deed around answer files).added = [u.entry around.now]

theorem place_eq (look : View) (place : Location) (h : look.denoted u.destination = .ok place) :
    u.place look = place := by
  rw [WorkUnit.place, h]
  rfl

theorem change_keeping (content : List UInt8) :
    (u.keeping around files content).change = Files.writeChange around.diskFaults
      (u.place files.lookup) content (files.lookup (u.place files.lookup) = some .directory) := by
  rw [keeping]
  split <;> rfl

/-- A unit changes the tree at its place, and takes the place of no directory. -/
theorem change_deed :
    (u.deed around answer files).change.At (u.place files.lookup) ∧
      (u.deed around answer files).change.IsFree files.lookup := by
  rw [deed]
  split
  · exact ⟨trivial, trivial⟩
  · split
    · exact ⟨trivial, trivial⟩
    · rw [translating]
      split
      · exact ⟨trivial, trivial⟩
      · rw [change_keeping]
        exact ⟨Files.writeChange_at _ _ _ _, Files.writeChange_isFree _ _ _ _⟩

end

section

variable (u : WorkUnit) {around : Surroundings} {answer : Answering}

def Part.isWritten : Part → Bool
  | .written => true
  | _ => false

/-- What one part of the work can come to in some world, if the unit does what it would have done in
a tree. It changes the tree once, when it writes or ends without having written, and adds to the
history when it ends. -/
inductive Follows (u : WorkUnit) (around : Surroundings) (answer : Answering) (files : Files.Tree)
    (part : Part) (w : World) : (Part ⊕ Except Error String) × World → Prop
  | passes (next : Part) (later : World) (owes : u.Owes around answer files next)
      (before : part.isWritten = false)
      (changed : later.files.lookup = if next.isWritten then
        (u.deed around answer files).change.apply w.files.lookup else w.files.lookup)
      (store : later.store = w.store) (uncancelled : later.session.cancelled = false) :
      Follows u around answer files part w (.inl next, later)
  | ends (result : Except Error String) (later : World)
      (told : result = (u.deed around answer files).result)
      (changed : later.files.lookup = if part.isWritten then w.files.lookup else
        (u.deed around answer files).change.apply w.files.lookup)
      (store : later.store =
        (u.deed around answer files).added.foldl Catalog.Store.addEntry w.store)
      (uncancelled : later.session.cancelled = false) :
      Follows u around answer files part w (.inr result, later)

/-- The tree of a world is, for the unit, still as it was at first. -/
structure Undisturbed (files : Files.Tree) (w : World) : Prop where
  grounded : View.Grounded w.files.lookup
  read : w.files.read u.sourcePath = files.read u.sourcePath
  denoted : View.denoted w.files.lookup u.destination = .ok (u.place files.lookup)
  same : w.files.lookup (u.place files.lookup) = files.lookup (u.place files.lookup)

variable (hsteady : around.Steady answer) (files : Files.Tree) (w : World)
  (huncancelled : w.session.cancelled = false)
include hsteady huncancelled

omit hsteady in
/-- The first part reads the source. What the source holds is what it held at the start, as no
other unit has written there, so what is left of the deed is to translate that track. -/
theorem follows_begun (h : u.Undisturbed files w) :
    u.Follows around answer files .begun w (u.advance around .begun w) := by
  have hload : u.load files = u.load w.files := by simp only [load, Subtitle.Track.load, h.read]
  rw [advance]
  cases hread : u.load w.files with
  | error e =>
    have hdeed : u.deed around answer files = ⟨.error e, .nothing, []⟩ := by
      simp only [deed, hload, hread]
    exact .ends _ _ (by rw [hdeed]) (by rw [hdeed]; rfl) (by rw [hdeed]; rfl) huncancelled
  | ok track =>
    cases hempty : track.cues.isEmpty with
    | true =>
      have hdeed : u.deed around answer files = ⟨.ok u.destination, .nothing, []⟩ := by
        simp only [deed, hload, hread, hempty, if_true]
      simp only [hempty, if_true]
      exact .ends _ _ (by rw [hdeed]) (by rw [hdeed]; rfl) (by rw [hdeed]; rfl) huncancelled
    | false =>
      have hdeed : u.Owes around answer files (.read track) := by
        simp [Owes, deed, hload, hread, hempty]
      simp only [hempty, Bool.false_eq_true, if_false]
      exact .passes _ w hdeed rfl rfl rfl huncancelled

/-- The second part asks the backend, which answers by what it is told and not by when. So what
is left of the deed is to keep the cues that the answer makes of the track. -/
theorem follows_read (track : Subtitle.Track) (howes : u.Owes around answer files (.read track)) :
    u.Follows around answer files (.read track) w (u.advance around (.read track) w) := by
  have hdeed : u.deed around answer files = u.translating around answer files track := howes
  have hsession := hsteady.uncancelled (u.task track) w.session huncancelled
  have hanswer : (around.backend (u.task track) w.session).1 =
      answer track.plainTexts u.metadata := hsteady.answers (u.task track) w.session huncancelled
  rw [translating] at hdeed
  simp only [advance, World.translate_eq, hanswer]
  cases hlines : answer track.plainTexts u.metadata with
  | error e =>
    simp only [hlines] at hdeed
    exact .ends _ _ (by rw [hdeed]) (by rw [hdeed]; rfl) (by rw [hdeed]; rfl) hsession
  | ok lines =>
    simp only [hlines] at hdeed
    exact .passes _ _ hdeed rfl rfl rfl hsession

omit hsteady in
/-- What is written is what is kept of the content in the first tree. The directories that others
have made meanwhile were missing ones, so the write ends as it would have ended there. -/
theorem follows_translated (track : Subtitle.Track) (lines : List Subtitle.Line)
    (howes : u.Owes around answer files (.translated track lines)) (h : u.Undisturbed files w) :
    u.Follows around answer files (.translated track lines) w
      (u.advance around (.translated track lines) w) := by
  have hdeed : u.deed around answer files = u.keeping around files (content track lines) := howes
  have hwritten := Files.writeAtomicWith_eq w.files h.grounded around.diskFaults u.destination _
    (content track lines) u.endsInName_destination h.denoted
  simp only [h.same] at hwritten
  obtain ⟨hresult, hfiles⟩ := hwritten
  have hchange := u.change_keeping around files (content track lines)
  rw [← hdeed] at hchange
  rw [← hchange] at hfiles
  rw [keeping] at hdeed
  simp only [advance, write, World.write_eq, hresult]
  cases hends : Files.writeResult around.diskFaults u.destination
      (decide (files.lookup (u.place files.lookup) = some .directory)) with
  | error e =>
    simp only [hends] at hdeed
    exact .ends _ _ (by rw [hdeed]) hfiles (by rw [hdeed]; rfl) huncancelled
  | ok _ =>
    simp only [hends] at hdeed
    refine .passes _ _ ?_ rfl hfiles rfl huncancelled
    rw [Owes, hdeed]
    exact ⟨rfl, rfl⟩

theorem follows_written (howes : u.Owes around answer files .written) :
    u.Follows around answer files .written w (u.advance around .written w) := by
  obtain ⟨hresult, hadded⟩ := howes
  simp only [advance, record, World.record, hsteady.recorded]
  refine .ends _ _ hresult.symm rfl ?_ huncancelled
  rw [hadded]
  rfl

/-- Each part of the work does in a world what it would have done in the first tree. -/
theorem follows_advance (part : Part) (howes : u.Owes around answer files part)
    (h : part.isWritten = false → u.Undisturbed files w) :
    u.Follows around answer files part w (u.advance around part w) := by
  cases part with
  | begun => exact u.follows_begun files w huncancelled (h rfl)
  | read track => exact u.follows_read hsteady files w huncancelled track howes
  | translated track lines =>
    exact u.follows_translated files w huncancelled track lines howes (h rfl)
  | written => exact u.follows_written hsteady files w huncancelled howes

end

section

variable (u : WorkUnit) (around : Surroundings)

/-- The work from some part on, with no other turn between its parts. -/
inductive Completes : Part → World → Except Error String × World → Prop
  | ends {part : Part} {w later : World} {result : Except Error String}
      (h : u.advance around part w = (.inr result, later)) : Completes part w (result, later)
  | passes {part next : Part} {w later : World} {ending : Except Error String × World}
      (h : u.advance around part w = (.inl next, later)) (rest : Completes next later ending) :
      Completes part w ending

/-- A run is the work from the first part on. Its other parts follow one after the other, with no
turn of another unit in between. -/
theorem completes_run (w : World) : u.Completes around .begun w (u.run around w) := by
  rw [run, steps]
  cases hload : u.load w.files with
  | error e => exact .ends (by simp only [advance, hload, ended, tell])
  | ok track =>
    cases hempty : track.cues.isEmpty with
    | true => exact .ends (by simp [advance, hload, hempty, ended, tell])
    | false =>
      have hread : u.advance around .begun w = (.inl (.read track), w) := by
        simp [advance, hload, hempty]
      refine .passes hread ?_
      simp only [hempty, Bool.false_eq_true, if_false, finish]
      cases htranslate : w.translate around (u.task track) with
      | mk answer asked =>
        cases answer with
        | error e => exact .ends (by simp only [advance, htranslate, ended, tell])
        | ok lines =>
          have htranslated : u.advance around (.read track) w =
              (.inl (.translated track lines), asked) := by
            simp only [advance, htranslate]
          refine .passes htranslated ?_
          cases hwrite : u.write around (content track lines) asked with
          | mk result written =>
            cases result with
            | error e => exact .ends (by simp only [advance, hwrite, ended, tell])
            | ok _ =>
              have hwritten : u.advance around (.translated track lines) asked =
                  (.inl .written, written) := by
                simp only [advance, hwrite]
              simp only [hwrite]
              exact .passes hwritten (.ends rfl)

end

end WorkUnit

end Subtitling.Work
