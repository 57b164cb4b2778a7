import Subtitling.Proofs.Batch.Queued

/-!
What a batch tells of its items. Each item has one outcome, in the world that it meets when it is
worked on or in the state of the queue when it is handed on, and the result counts these outcomes
and keeps the texts of the failures in the order of the items. An item that cannot be made ready
leaves nothing but its own error, so all others meet the same worlds without it.
-/

namespace Subtitling.Batch

open Work (Queue Surroundings World WorkUnit)

/-- A result tells of some outcomes: all are counted, and the errors are the texts of those that
are failures, in their order. -/
structure Result.TellsOf (r : Result) (outcomes : List (Except ItemError Unit)) : Prop where
  total : r.queued + r.skipped = outcomes.length
  queued : r.queued = outcomes.countP Except.isOk
  skipped : r.errors.length = r.skipped
  errors : r.errors = outcomes.filterMap failure?

theorem tellsOf_empty : Result.empty.TellsOf [] := ⟨rfl, rfl, rfl, rfl⟩

/-- One more item keeps the result true to the outcomes: a good one raises the first count, and a
bad one raises the second and puts its text behind the others. -/
theorem Result.TellsOf.add {r : Result} {outcomes : List (Except ItemError Unit)}
    (h : r.TellsOf outcomes) (o : Except ItemError Unit) : (r.add o).TellsOf (outcomes ++ [o]) := by
  have htotal := h.total
  have hskipped := h.skipped
  cases o with
  | ok _ =>
    refine ⟨?_, ?_, hskipped, ?_⟩
    · simp only [Result.add, Result.recordQueued, List.length_append, List.length_singleton]
      omega
    · rw [List.countP_append, ← h.queued]
      rfl
    · rw [List.filterMap_append, ← h.errors]
      exact (List.append_nil _).symm
  | error e =>
    refine ⟨?_, ?_, ?_, ?_⟩
    · simp only [Result.add, Result.recordSkipped, List.length_append, List.length_singleton]
      omega
    · rw [List.countP_append, ← h.queued]
      rfl
    · simp only [Result.add, Result.recordSkipped, List.length_append, List.length_singleton,
        hskipped]
    · rw [List.filterMap_append, ← h.errors]
      rfl

theorem Result.TellsOf.count {α : Type} {r : Result} {outcomes : List (Except ItemError Unit)}
    (h : r.TellsOf outcomes) (outcome : α → Except ItemError Unit) (values : List α) :
    (r.count outcome values).TellsOf (outcomes ++ values.map outcome) := by
  induction values generalizing r outcomes with
  | nil => rwa [List.map_nil, List.append_nil]
  | cons value rest ih =>
    have hrest := ih (h.add (outcome value))
    rwa [List.append_assoc] at hrest

section

variable (setup : Setup) (around : Surroundings)

/-- The items of a batch that is worked on at once, each with the world that it meets. -/
def encounters : List Json → World → List (Json × World)
  | [], _ => []
  | value :: rest, w => (value, w) :: encounters rest (runItem setup around value w).2

def outcomeAt (m : Json × World) : Except ItemError Unit := (runItem setup around m.1 m.2).1

theorem map_fst_encounters (items : List Json) (w : World) :
    (encounters setup around items w).map Prod.fst = items := by
  induction items generalizing w with
  | nil => rfl
  | cons value rest ih => rw [encounters, List.map_cons, ih]

theorem fst_runFrom (items : List Json) (r : Result) (w : World) :
    (runFrom setup around items r w).1 =
      r.count (outcomeAt setup around) (encounters setup around items w) := by
  induction items generalizing r w with
  | nil => rfl
  | cons value rest ih => exact ih _ _

/-- What was counted before makes no difference to the world. -/
theorem snd_runFrom (items : List Json) (r : Result) (w : World) :
    (runFrom setup around items r w).2 = (runInline setup around items w).2 := by
  rw [runInline]
  generalize Result.empty = other
  induction items generalizing r other w with
  | nil => rfl
  | cons value rest ih => exact ih _ _ _

theorem runFrom_append (items more : List Json) (r : Result) (w : World) :
    runFrom setup around (items ++ more) r w =
      runFrom setup around more (runFrom setup around items r w).1
        (runFrom setup around items r w).2 := by
  induction items generalizing r w with
  | nil => rfl
  | cons value rest ih => exact ih _ _

theorem encounters_append (items more : List Json) (w : World) :
    encounters setup around (items ++ more) w =
      encounters setup around items w ++
        encounters setup around more (runInline setup around items w).2 := by
  induction items generalizing w with
  | nil => rfl
  | cons value rest ih =>
    have hworld := snd_runFrom setup around rest (Result.empty.add (runItem setup around value w).1)
      (runItem setup around value w).2
    rw [List.cons_append, encounters, ih, encounters, List.cons_append, ← hworld]
    rfl

theorem runItem_of_unready (value : Json) (w : World) (e : ItemError)
    (h : prepare setup around value w = .error e) :
    runItem setup around value w = (.error e, w) := by
  rw [runItem, h]

theorem runItem_of_ready (value : Json) (w : World) (u : WorkUnit)
    (h : prepare setup around value w = .ok u) :
    (runItem setup around value w).1.isOk = (u.run around w).1.isOk ∧
      (runItem setup around value w).2 = (u.run around w).2 := by
  simp only [runItem, h]
  cases u.run around w with
  | mk result reached => cases result <;> exact ⟨rfl, rfl⟩

/-- Of two results the first counts one skipped item more, whose error comes behind those of the
items in front of it, and tells the same of all others. -/
structure Result.CountsMore (whole without front : Result) (error : String) : Prop where
  queued : whole.queued = without.queued
  skipped : whole.skipped = without.skipped + 1
  errors : ∃ later, whole.errors = front.errors ++ error :: later ∧
    without.errors = front.errors ++ later

theorem countsMore_count {α : Type} (outcome : α → Except ItemError Unit) (values : List α)
    (r : Result) (error : String) :
    ((r.recordSkipped error).count outcome values).CountsMore (r.count outcome values) r error where
  queued := by rw [queued_count, queued_count, Result.recordSkipped]
  skipped := by
    rw [skipped_count, skipped_count, Result.recordSkipped]
    exact Nat.add_right_comm r.skipped 1 _
  errors := ⟨_, by rw [errors_count, Result.recordSkipped, List.append_assoc]; rfl,
    errors_count _ _ _⟩

/-- Without an item that cannot be made ready the others meet the same worlds. It leaves the
world alone, so all that it leaves behind is its own error among those of the batch. -/
theorem runInline_of_unready (before after : List Json) (value : Json) (w : World) (e : ItemError)
    (h : prepare setup around value (runInline setup around before w).2 = .error e) :
    let whole := runInline setup around (before ++ value :: after) w
    let without := runInline setup around (before ++ after) w
    encounters setup around (before ++ after) w =
        (encounters setup around (before ++ value :: after) w).eraseIdx before.length ∧
      whole.2 = without.2 ∧
      whole.1.CountsMore without.1 (runInline setup around before w).1 e.message := by
  intro whole without
  have hitem := runItem_of_unready setup around value _ e h
  have hlength : (encounters setup around before w).length = before.length := by
    rw [← List.length_map (f := Prod.fst), map_fst_encounters]
  have hwhole : whole = runFrom setup around after
      ((runInline setup around before w).1.recordSkipped e.message)
        (runInline setup around before w).2 := by
    simp only [whole, runInline, runFrom_append, runFrom]
    rw [runInline] at hitem
    rw [hitem]
    rfl
  have hwithout : without = runFrom setup around after (runInline setup around before w).1
      (runInline setup around before w).2 := runFrom_append _ _ _ _ _ _
  refine ⟨?_, ?_, ?_⟩
  · rw [encounters_append, encounters_append, encounters, hitem, ← hlength]
    rw [List.eraseIdx_append_of_length_le (Nat.le_refl _), Nat.sub_self, List.eraseIdx_cons_zero]
  · rw [hwhole, hwithout, snd_runFrom, snd_runFrom]
  · rw [hwhole, hwithout, fst_runFrom, fst_runFrom]
    exact countsMore_count _ _ _ _

/-- The item that is handed on in a turn, if one is, with the state that it meets. -/
def handedIn (s : Underway) : Turn → List (Json × Underway)
  | .item => s.left.head?.toList.map fun value => (value, s)
  | _ => []

/-- The items that are handed on in some turns, each with the state that it meets. -/
def handed : List Turn → Underway → List (Json × Underway)
  | [], _ => []
  | t :: rest, s => handedIn s t ++ handed rest (s.turn setup around t)

def handingAt (m : Json × Underway) : Except ItemError Unit :=
  (queueItem setup around m.1 m.2.world m.2.queue).1

theorem turn_handedIn (t : Turn) (s : Underway) :
    (handedIn s t).map Prod.fst ++ (s.turn setup around t).left = s.left ∧
      (s.turn setup around t).result = s.result.count (handingAt setup around) (handedIn s t) := by
  cases t with
  | item =>
    simp only [handedIn, Underway.turn]
    cases hleft : s.left with
    | nil => exact ⟨hleft, rfl⟩
    | cons value rest => exact ⟨rfl, rfl⟩
  | step i =>
    simp only [handedIn, Underway.turn]
    split <;> exact ⟨rfl, rfl⟩
  | wait => exact ⟨rfl, rfl⟩

theorem play_handed (turns : List Turn) (s : Underway) :
    (handed setup around turns s).map Prod.fst ++ (s.play setup around turns).left = s.left ∧
      (s.play setup around turns).result =
        s.result.count (handingAt setup around) (handed setup around turns s) := by
  induction turns generalizing s with
  | nil => exact ⟨rfl, rfl⟩
  | cons t rest ih =>
    obtain ⟨hitems, hresult⟩ := ih (s.turn setup around t)
    obtain ⟨hitem, hadded⟩ := turn_handedIn setup around t s
    have hplay : s.play setup around (t :: rest) = (s.turn setup around t).play setup around rest :=
      rfl
    rw [hplay, handed]
    constructor
    · rw [List.map_append, List.append_assoc, hitems, hitem]
    · rw [hresult, hadded, Result.count, Result.count, Result.count, List.foldl_append]

/-- Whether the queue takes a unit depends on nothing but whether the caller has cancelled. -/
theorem fst_queueItem (value : Json) (w : World) (q other : Queue) :
    (queueItem setup around value w q).1 = (queueItem setup around value w other).1 := by
  rw [queueItem, queueItem]
  cases prepare setup around value w with
  | error e => rfl
  | ok u =>
    simp only [Queue.enqueue]
    cases w.session.cancelled <;> rfl

theorem fst_queueFrom (items : List Json) (r : Result) (w : World) (q other : Queue) :
    (queueFrom setup around w items r q).1 =
      r.count (fun value => (queueItem setup around value w other).1) items := by
  induction items generalizing r q with
  | nil => rfl
  | cons value rest ih =>
    have hvalue := fst_queueItem setup around value w q other
    have hrest :=
      ih (r.add (queueItem setup around value w q).1) (queueItem setup around value w q).2
    rw [hvalue] at hrest
    rw [Result.count, List.foldl_cons, ← Result.count, ← hrest, ← hvalue]
    rfl

/-- A result counts every item once and keeps the texts of the failures in the order of the
items, when the batch is worked on at once, in every run through a queue as far as it got, and in
the one that hands all items on first. A batch that is worked on at once comes to the same
without an item that cannot be made ready: the other items meet the same worlds, the last world
is the same, and the result lacks that item's error and nothing else. -/
theorem rejected_item_is_only_counted (items : List Json) (w : World) :
    ((encounters setup around items w).map Prod.fst = items ∧
      (runInline setup around items w).1.TellsOf
        ((encounters setup around items w).map (outcomeAt setup around))) ∧
    (∀ workers turns,
      let begun := Underway.start workers items w
      let s := begun.play setup around turns
      (handed setup around turns begun).map Prod.fst ++ s.left = items ∧
        s.result.TellsOf ((handed setup around turns begun).map (handingAt setup around))) ∧
    (∀ workers, (runQueued setup around workers items w).1.TellsOf
      (items.map fun value => (queueItem setup around value w (Queue.make workers)).1)) ∧
    ∀ before value after e, items = before ++ value :: after →
      prepare setup around value (runInline setup around before w).2 = .error e →
      let whole := runInline setup around items w
      let without := runInline setup around (before ++ after) w
      encounters setup around (before ++ after) w =
          (encounters setup around items w).eraseIdx before.length ∧
        whole.2 = without.2 ∧
        whole.1.CountsMore without.1 (runInline setup around before w).1 e.message := by
  have hinline (values : List Json) : (runInline setup around values w).1.TellsOf
      ((encounters setup around values w).map (outcomeAt setup around)) := by
    rw [runInline, fst_runFrom]
    exact tellsOf_empty.count _ _
  refine ⟨⟨map_fst_encounters setup around items w, hinline items⟩, fun workers turns => ?_,
    fun workers => ?_, ?_⟩
  · obtain ⟨hitems, hresult⟩ := play_handed setup around turns (Underway.start workers items w)
    refine ⟨hitems, ?_⟩
    rw [hresult]
    exact tellsOf_empty.count _ _
  · have hresult :=
      fst_queueFrom setup around items .empty w (Queue.make workers) (Queue.make workers)
    rw [runQueued]
    simp only [hresult]
    exact tellsOf_empty.count _ _
  · rintro before value after e rfl hunready
    exact runInline_of_unready setup around before after value w e hunready

end

/-- Between two films stands an item for a film that the catalog does not know. -/
theorem rejected_item_is_only_counted_films :
    let item (id : Int) (source : String) : Json := .ofFields [("type", .string "movie"),
      ("movieId", .ofInt id), ("sourceLanguage", .string "en"), ("targetLanguage", .string "fr"),
      ("subtitlePath", .string source)]
    let setup : Setup := ⟨⟨.identity, Language.Detector.standard⟩, ⟨"", "m", ⟨0⟩, 1, .disabled⟩⟩
    let around : Surroundings :=
      ⟨fun task s => (.ok (task.texts.mapIdx fun i text => ⟨i, text ++ "!"⟩), s), fun _ => none,
        none, Files.Faults.none, "now"⟩
    let bytes := "1\n00:00:01,000 --> 00:00:04,500\nHello\n".toUTF8.toList
    let store : Catalog.Store :=
      ⟨[], [⟨1, "Film", "a/Film.mkv", none⟩, ⟨2, "Other", "b/Other.mkv", none⟩], []⟩
    let w := World.start ⟨[(["Film.srt"], .file bytes)]⟩ store false
    let whole := runInline setup around [item 1 "Film.srt", item 4 "Film.srt", item 2 "Other.srt"] w
    let without := runInline setup around [item 1 "Film.srt", item 2 "Other.srt"] w
    let unread := "Unable to load source subtitle \"Other.srt\": " ++
      "Failed to read subtitle file: \"Other.srt\": No such file or directory (os error 2)"
    prepare setup around (item 4 "Film.srt") (runInline setup around [item 1 "Film.srt"] w).2 =
        .error (.mediaNotFound .movie 4) ∧
      whole.2 = without.2 ∧ without.1 = ⟨1, 1, [unread]⟩ ∧
      whole.1 = ⟨1, 2, ["Movie 4 not found", unread]⟩ := by
  intro item setup around bytes store w whole without unread
  have hunready : prepare setup around (item 4 "Film.srt")
      (runInline setup around [item 1 "Film.srt"] w).2 = .error (.mediaNotFound .movie 4) := by
    decide +kernel
  obtain ⟨-, hworld, -⟩ := (rejected_item_is_only_counted setup around
    [item 1 "Film.srt", item 4 "Film.srt", item 2 "Other.srt"] w).2.2.2 [item 1 "Film.srt"] _ _ _
      rfl hunready
  exact ⟨hunready, hworld, by decide +kernel, by decide +kernel⟩

end Subtitling.Batch
