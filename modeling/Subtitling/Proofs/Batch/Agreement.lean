import Subtitling.Proofs.Batch.Queued

/-!
Working on a batch at once and through a queue. An item that names its source makes the same unit
whenever it is read, and units that keep out of each other's way do the same in whatever order
they run. So both ways leave the same files and rows; they only count differently, since the
queue has not yet worked on an item when it counts it.
-/

namespace Subtitling.Batch

open Work (Answering Outcome Queue Separate Surroundings Worked World)

def failureOf? (o : Outcome) : Option String :=
  match o.result with
  | .ok _ => none
  | .error text => some text

/-- A batch that went through a queue left what it would have left if it had been worked on at
once: the same files, the same rows of the history, and the same numbers of rows. As many items
count as handed on at once as have a good outcome, and the errors are those of the batch and of
the bad outcomes. -/
structure Agrees (atOnce : Result × World) (result : Result) (q : Queue) (w : World) : Prop where
  files : w.files.lookup = atOnce.2.files.lookup
  rows : (w.store.history.map Catalog.Row.withoutId).Perm
    (atOnce.2.store.history.map Catalog.Row.withoutId)
  ids : w.store.history.map Catalog.Row.id = atOnce.2.store.history.map Catalog.Row.id
  queued : atOnce.1.queued = q.outcomes.countP fun o => o.result.isOk
  errors : atOnce.1.errors.Perm (result.errors ++ q.outcomes.filterMap failureOf?)

section

variable (setup : Setup) (around : Surroundings) (answer : Answering) (start : World)

/-- Items that are worked on well are as many as units with a good outcome: an item that cannot
be made ready has no unit, and every other has one of its own. -/
theorem countP_working (items : List Json) :
    (items.countP fun value => (working setup around answer start value).isOk) =
      (units setup around start items).countP fun u =>
        (outcome around answer start u).result.isOk := by
  induction items with
  | nil => rfl
  | cons value rest ih =>
    have hsplit := units_append setup around start [value] rest
    rw [List.singleton_append] at hsplit
    rw [hsplit, List.countP_append, List.countP_cons, ih, working]
    cases hready : prepare setup around value start with
    | error e =>
      rw [units_of_failed setup around start value e hready]
      simp [Except.isOk, Except.toBool]
    | ok u =>
      rw [units_of_ready setup around start value u hready, List.countP_singleton, outcome,
        Queue.outcomeOf]
      cases hdeed : (u.deed around answer start.files).result with
      | error e => simp [hdeed, Except.isOk, Except.toBool, Except.mapError]
      | ok _ =>
        rw [Nat.add_comm]
        simp [hdeed, Except.isOk, Except.toBool, Except.mapError]

/-- Items that are not handed on come first, and those that fail later behind them. Both ways
tell of the same failures, though not in the same order, since a batch at once tells of an item
when its turn comes. -/
theorem failures_working (items : List Json) :
    (items.filterMap fun value => failure? (working setup around answer start value)).Perm
      ((items.filterMap fun value => failure? (handing setup around start value)) ++
        (units setup around start items).filterMap fun u =>
          failureOf? (outcome around answer start u)) := by
  induction items with
  | nil => exact List.Perm.refl _
  | cons value rest ih =>
    have hsplit := units_append setup around start [value] rest
    rw [List.singleton_append] at hsplit
    rw [hsplit, List.filterMap_append, List.filterMap_cons, List.filterMap_cons]
    cases hready : prepare setup around value start with
    | error e =>
      have hworked : failure? (working setup around answer start value) = some e.message := by
        rw [working, hready, failure?]
      have hhanded : failure? (handing setup around start value) = some e.message := by
        rw [handing, hready, Except.map, failure?]
      simp only [hworked, hhanded, units_of_failed setup around start value e hready,
        List.filterMap_nil, List.nil_append, List.cons_append]
      exact ih.cons e.message
    | ok u =>
      have hhanded : failure? (handing setup around start value) = none := by
        rw [handing, hready, Except.map, failure?]
      have hsame : failure? (working setup around answer start value) =
          failureOf? (outcome around answer start u) := by
        simp only [working, hready, outcome, Queue.outcomeOf]
        cases (u.deed around answer start.files).result <;> rfl
      simp only [hhanded, hsame, units_of_ready setup around start value u hready,
        List.filterMap_cons, List.filterMap_nil]
      cases failureOf? (outcome around answer start u) with
      | none => exact ih
      | some text => exact (ih.cons text).trans List.perm_middle.symm

end

section

variable {setup : Setup} {around : Surroundings} {answer : Answering} {start : World}
  (hsteady : around.Steady answer) (hstart : Files.View.Grounded start.files.lookup)
  {items : List Json} (hitems : ∀ value ∈ items, NamesSource value)
  (hunits : Separate start.files.lookup (units setup around start items))
include hsteady hstart hitems hunits

/-- The run over the rest of a batch, by induction on that rest. What is handed on is counted by
the outcomes that the units would have had at the start, since whatever has been worked on so far
leaves each of the other units the same work to do. -/
theorem runFrom_eq (past rest : List Json) (h : past ++ rest = items) (r : Result) (w : World)
    (hw : Worked around answer start (units setup around start past) (units setup around start past)
      w) :
    (runFrom setup around rest r w).1 = r.count (working setup around answer start) rest ∧
      Worked around answer start (units setup around start items) (units setup around start items)
        (runFrom setup around rest r w).2 := by
  induction rest generalizing past r w with
  | nil =>
    rw [List.append_nil] at h
    exact ⟨rfl, h ▸ hw⟩
  | cons value rest ih =>
    have hprepare := prepare_of_worked setup hw value (hitems value (by simp [← h]))
    have hrest := ih (past ++ [value]) (by rw [List.append_assoc]; exact h)
    have hsplit := units_append setup around start past [value]
    cases hready : prepare setup around value start with
    | error e =>
      have hmade := units_of_failed setup around start value e hready
      rw [hmade, List.append_nil] at hsplit
      have hcounted := hrest (r.add (.error e)) w (hsplit ▸ hw)
      simpa only [runFrom, runItem, hprepare, hready, Result.count, List.foldl_cons, working]
        using hcounted
    | ok u =>
      have hmade := units_of_ready setup around start value u hready
      rw [hmade] at hsplit
      have hwhole : units setup around start items =
          units setup around start past ++ [u] ++ units setup around start rest := by
        rw [← h, List.append_cons, units_append, hsplit]
      obtain ⟨hresult, hafter⟩ := hw.run hsteady hstart u
        (hunits.sublist (hwhole ▸ List.sublist_append_left _ _))
      have hcounted := hrest (r.add (working setup around answer start value)) (u.run around w).2
        (hsplit ▸ hafter)
      cases hran : u.run around w with
      | mk result w' =>
        rw [hran] at hresult hcounted
        simp only at hresult
        cases result with
        | error e =>
          simpa only [runFrom, runItem, hprepare, hready, hran, Result.count, List.foldl_cons,
            working, ← hresult] using hcounted
        | ok _ =>
          simpa only [runFrom, runItem, hprepare, hready, hran, Result.count, List.foldl_cons,
            working, ← hresult] using hcounted

/-- Everything that was to be worked on has been, one way and the other. Nothing is pending, so
the units that have run are all units of the items, and what they did is what the batch at once
did. -/
theorem agrees_of_kept (hcancelled : start.session.cancelled = false) (s : Underway)
    (hs : Kept setup around answer start items s) (howing : s.queue.owing = 0) :
    Agrees (runInline setup around items start) s.result s.queue s.world := by
  obtain ⟨hresult, hinline⟩ := runFrom_eq hsteady hstart hitems hunits [] items rfl .empty start
    (Work.worked_start hcancelled)
  obtain ⟨us, vs, hus, hvs, hworked⟩ := hs.worked
  rw [Queue.wrote_of_owing howing, hs.made] at hus
  rw [Queue.ran_of_owing howing, hs.made] at hvs
  obtain ⟨order, hledger⟩ := hs.ledger
  have houtcomes := hledger.outcomes_perm (outcome around answer start) howing
  rw [hs.made] at houtcomes
  obtain ⟨hfiles, hrows, hids⟩ := hworked.agree hinline hus hvs (hunits.perm hus.symm)
  refine ⟨hfiles, hrows, hids, ?_, ?_⟩
  · rw [runInline, hresult, queued_count, countP_working, houtcomes.countP_eq, List.countP_map]
    exact Nat.zero_add _
  · rw [runInline, hresult, errors_count, hs.result, errors_count]
    have hfailures := failures_working setup around answer start items
    have hmapped := houtcomes.filterMap failureOf?
    rw [List.filterMap_map] at hmapped
    exact (hfailures.trans (hmapped.symm.append_left _)).append_left []

end

/-- A batch leaves the same whether it is worked on at once or goes through a queue, in whatever
order its units run and whenever its items are handed on, if its items name their sources and
keep out of each other's way, the backend answers the same at any time, nobody cancels and the
history can be written. That is so of the run that hands everything on first and then drains the
queue, and of any other. -/
theorem queued_agrees_with_inline (setup : Setup) (around : Surroundings) (answer : Answering)
    (workers : Nat) (items : List Json) (w : World) (hsteady : around.Steady answer)
    (hcancelled : w.session.cancelled = false) (hfiles : Files.View.Grounded w.files.lookup)
    (hitems : ∀ value ∈ items, NamesSource value)
    (hunits : Separate w.files.lookup (units setup around w items)) :
    (∀ turns, let s := (Underway.start workers items w).play setup around turns
      s.IsDrained → Agrees (runInline setup around items w) s.result s.queue s.world) ∧
    let run := runQueued setup around workers items w
    Agrees (runInline setup around items w) run.1 run.2.1 run.2.2 := by
  have hstart : Kept setup around answer w [] (.start workers items w) :=
    kept_start workers items hcancelled
  have hkept (turns : List Turn) := hstart.play hsteady hfiles hitems hunits rfl turns
  constructor
  · intro turns s hdrained
    obtain ⟨handed, hhanded, hs⟩ := hkept turns
    rw [hdrained.1, List.append_nil] at hhanded
    rw [hhanded] at hs
    exact agrees_of_kept hsteady hfiles hitems hunits hcancelled s hs
      (hs.sound.pending_eq.symm.trans hdrained.2)
  · intro run
    obtain ⟨turns, hturns⟩ := Underway.exists_play_runQueued setup around workers items w
    obtain ⟨handed, hhanded, hs⟩ := hkept turns
    rw [hturns] at hhanded hs
    rw [List.append_nil] at hhanded
    rw [hhanded] at hs
    exact agrees_of_kept hsteady hfiles hitems hunits hcancelled _ hs
      (owing_runQueued setup around workers items w)

/-- Two films are worked on side by side. The first is written before the other, which is entered
in the history between that and the first's own entry, and has its outcome told of last. An item
for no film, and one whose source is not there, come between them. -/
theorem queued_agrees_with_inline_films :
    let item (id : Int) (source : String) : Json := .ofFields [("type", .string "movie"),
      ("movieId", .ofInt id), ("sourceLanguage", .string "en"), ("targetLanguage", .string "fr"),
      ("subtitlePath", .string source)]
    let setup : Setup := ⟨⟨.identity, Language.Detector.standard⟩, ⟨"", "m", ⟨0⟩, 1, .disabled⟩⟩
    let answer : Answering := fun texts _ => .ok (texts.mapIdx fun i text => ⟨i, text ++ "!"⟩)
    let around : Surroundings :=
      ⟨fun task s => (answer task.texts task.metadata, s), fun _ => none, none,
      Files.Faults.none, "now"⟩
    let bytes := "1\n00:00:01,000 --> 00:00:04,500\nHello\n".toUTF8.toList
    let store : Catalog.Store :=
      ⟨[], [⟨1, "Film", "a/Film.mkv", none⟩, ⟨2, "Other", "b/Other.mkv", none⟩,
      ⟨3, "Third", "Third.mkv", none⟩], []⟩
    let w := World.start ⟨[(["Film.srt"], .file bytes), (["Other.srt"], .file bytes)]⟩ store false
    let items := [item 1 "Film.srt", item 4 "Film.srt", item 3 "Third.srt", item 2 "Other.srt"]
    let turns : List Turn := [.item, .item, .item, .wait, .step 0, .step 1, .step 0, .item, .step 2,
      .step 2, .step 0, .step 0, .step 2, .step 2, .step 2, .step 0] ++
      List.replicate 5 (.step 1) ++ List.replicate 4 (.step 0) ++ List.replicate 4 (.step 2)
    let s := (Underway.start 3 items w).play setup around turns
    let inline := runInline setup around items w
    around.Steady answer ∧ w.session.cancelled = false ∧ Files.View.Grounded w.files.lookup ∧
      (∀ value ∈ items, NamesSource value) ∧ Separate w.files.lookup (units setup around w items) ∧
      s.IsDrained ∧ Agrees inline s.result s.queue s.world ∧
      s.world.store.history.map (·.videoPath) = ["a/Film.mkv", "b/Other.mkv"] ∧
      inline.2.store.history.map (·.videoPath) = ["b/Other.mkv", "a/Film.mkv"] ∧
      inline.1 = ⟨2, 2, ["Movie 4 not found", "Unable to load source subtitle \"Third.srt\": " ++
        "Failed to read subtitle file: \"Third.srt\": No such file or directory (os error 2)"]⟩ ∧
      s.result = ⟨3, 1, ["Movie 4 not found"]⟩ := by
  intro item setup answer around bytes store w items turns s inline
  have hsteady : around.Steady answer := ⟨fun _ _ _ => rfl, fun _ _ h => h, fun _ => rfl⟩
  have hfiles : Files.View.Grounded w.files.lookup :=
    Files.View.grounded_of_entries w.files (by decide +kernel)
  have hitems : ∀ value ∈ items, NamesSource value := by decide +kernel
  have hunits : Separate w.files.lookup (units setup around w items) := by decide +kernel
  have hdrained : s.IsDrained := by decide +kernel
  have hagrees := (queued_agrees_with_inline setup around answer 3 items w hsteady rfl hfiles hitems
    hunits).1 turns hdrained
  exact ⟨hsteady, rfl, hfiles, hitems, hunits, hdrained,
    hagrees, by decide +kernel, by decide +kernel, by decide +kernel, by decide +kernel⟩

end Subtitling.Batch
