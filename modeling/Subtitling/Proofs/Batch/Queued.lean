import Subtitling.Proofs.Batch.Preparing
import Subtitling.Proofs.Work.Draining

/-!
A batch that goes through a queue. Items are handed on, units go through their stages and someone
waits, all in any order, also between two parts of the work on a unit. Each turn keeps the
accounts: the items handed on so far are counted and have made the units of the queue, and what
has been done of the work on these units is what they would have done at the start.
-/

namespace Subtitling.Batch

open Work (Accepted Answering Queue Separate Surroundings Worked World WorkUnit)

inductive Turn
  /-- The next item is handed to the queue. -/
  | item
  /-- The unit with this number takes its next step. -/
  | step (i : Nat)
  /-- Whoever waits for the queue goes on. -/
  | wait

structure Underway where
  left : List Json
  result : Result
  queue : Queue
  world : World

namespace Underway

def start (workers : Nat) (items : List Json) (w : World) : Underway :=
  ⟨items, .empty, Queue.make workers, w⟩

section

variable (setup : Setup) (around : Surroundings)

/-- What is left after a turn; one that is not possible changes nothing. -/
def turn (s : Underway) : Turn → Underway
  | .item =>
    match s.left with
    | [] => s
    | value :: rest =>
      let (outcome, q) := queueItem setup around value s.world s.queue
      ⟨rest, s.result.add outcome, q, s.world⟩
  | .step i =>
    match s.queue.step? around i s.world with
    | some (q, w) => { s with queue := q, world := w }
    | none => s
  | .wait => { s with queue := s.queue.wait?.getD s.queue }

def play (s : Underway) (turns : List Turn) : Underway := turns.foldl (turn setup around) s

end

/-- All items have been handed on, and nothing is pending. -/
def IsDrained (s : Underway) : Prop := s.left = [] ∧ s.queue.pending = 0

instance (s : Underway) : Decidable s.IsDrained :=
  inferInstanceAs (Decidable (s.left = [] ∧ s.queue.pending = 0))

end Underway

/-- The accounts of a batch: the items handed on so far, what they were counted as, the units
that they made, the outcomes of these and what they did. -/
structure Kept (setup : Setup) (around : Surroundings) (answer : Answering) (begun : World)
    (past : List Json) (s : Underway) : Prop where
  made : s.queue.workUnits = units setup around begun past
  result : s.result = Result.empty.count (handing setup around begun) past
  sound : s.queue.Sound
  ledger : ∃ order, Queue.Ledger (fun u o => o = outcome around answer begun u) s.queue order
  going : s.queue.Going fun u part => u.Owes around answer begun.files part
  worked : ∃ us vs, us.Perm s.queue.wrote ∧ vs.Perm s.queue.ran ∧
    Worked around answer begun us vs s.world

section

variable {setup : Setup} {around : Surroundings} {answer : Answering} {begun : World}
  (hsteady : around.Steady answer) (hbegun : Files.View.Grounded begun.files.lookup)
  {past : List Json} {s : Underway}

theorem kept_start (workers : Nat) (items : List Json) (h : begun.session.cancelled = false) :
    Kept setup around answer begun [] (.start workers items begun) where
  made := rfl
  result := rfl
  sound := Queue.sound_make workers
  ledger := ⟨[], Queue.ledger_make workers⟩
  going := Queue.going_make workers
  worked := ⟨[], [], List.Perm.refl _, List.Perm.refl _, Work.worked_start h⟩

/-- An item is handed on. It makes the unit that it would have made at the start, if it makes
one, as the items of the catalog have not changed; and that unit comes last in the queue. -/
theorem Kept.item (h : Kept setup around answer begun past s) (value : Json) (rest : List Json)
    (hleft : s.left = value :: rest) (hvalue : NamesSource value) :
    Kept setup around answer begun (past ++ [value]) (s.turn setup around .item) := by
  obtain ⟨us, vs, hwrote, hran, hworked⟩ := h.worked
  have hprepare := prepare_of_worked setup hworked value hvalue
  have hsplit := units_append setup around begun past [value]
  have hresult : Result.empty.count (handing setup around begun) (past ++ [value]) =
      s.result.add (handing setup around begun value) := by
    rw [h.result, Result.count, List.foldl_append]
    rfl
  simp only [Underway.turn, hleft, queueItem, hprepare]
  cases hready : prepare setup around value begun with
  | error e =>
    have hmade := units_of_failed setup around begun value e hready
    rw [hmade, List.append_nil] at hsplit
    refine ⟨h.made.trans hsplit.symm, ?_, h.sound, h.ledger, h.going, h.worked⟩
    rw [hresult, handing, hready]
    rfl
  | ok u =>
    have hmade := units_of_ready setup around begun value u hready
    rw [hmade] at hsplit
    obtain ⟨q, hq⟩ : ∃ q, s.queue.enqueue s.world.session.cancelled u = .ok q := by
      simp [Queue.enqueue, hworked.uncancelled]
    obtain ⟨order, hledger⟩ := h.ledger
    simp only [hq]
    refine ⟨?_, ?_, h.sound.enqueue _ u hq, ⟨order, hledger.enqueue _ u hq⟩,
      h.going.enqueue _ u hq, us, vs, ?_, ?_, hworked⟩
    · rw [hsplit, ← h.made]
      rw [Queue.enqueue, hworked.uncancelled] at hq
      obtain rfl := Except.ok.inj hq
      simp [Queue.workUnits]
    · rw [hresult, handing, hready]
      rfl
    · rw [Queue.wrote, Queue.those_enqueue _ rfl _ u hq]
      exact hwrote
    · rw [Queue.ran, Queue.those_enqueue _ rfl _ u hq]
      exact hran

include hsteady hbegun

/-- A unit takes a step in which it is worked on, and does what it would have done at the start.
Nobody else writes where it does, so the parts that others took in between made no difference to
what it still owes. -/
theorem Kept.work (h : Kept setup around answer begun past s)
    (hunits : Separate begun.files.lookup (units setup around begun past)) (i : Nat) (a : Accepted)
    (part : WorkUnit.Part) (q : Queue) (w : World) (ha : s.queue.units[i]? = some a)
    (hstage : a.stage = .working part)
    (hadvance : Queue.Advance around i a s.queue s.world q w) :
    (q.Going fun u part => u.Owes around answer begun.files part) ∧
      (∃ us vs, us.Perm q.wrote ∧ vs.Perm q.ran ∧ Worked around answer begun us vs w) ∧
      ∀ result, a.workUnit.advance around part s.world = (.inr result, w) →
        result = (a.workUnit.deed around answer begun.files).result := by
  obtain ⟨us, vs, hwrote, hran, hworked⟩ := h.worked
  have howes := h.going a (List.mem_of_getElem? ha) part hstage
  have hseparate (hpart : part.isWritten = false) :
      Separate begun.files.lookup (us ++ [a.workUnit]) := by
    obtain ⟨all, hsublist, hall⟩ := Queue.exists_sublist_those Work.Stage.hasWritten .finished ha
      (by rw [hstage]; exact hpart) rfl
    exact (hunits.sublist (h.made ▸ hsublist)).perm
      (hall.trans (hwrote.append_right [a.workUnit]).symm)
  rcases hadvance.of_working part hstage with ⟨next, hpart, rfl⟩ | ⟨result, hpart, rfl⟩
  · obtain ⟨hnext, -⟩ := hworked.advance hsteady hbegun a.workUnit part howes hseparate _ _ hpart
    obtain ⟨hopen, howesNext, hafter⟩ := hnext next rfl
    have hmore := Queue.perm_those_setStage Work.Stage.hasWritten (.working next) hwrote ha
      (by rw [hstage]; simp [Work.Stage.hasWritten, hopen])
    have hsame := Queue.perm_those_setStage Work.Stage.hasRun (.working next) hran ha
      (by rw [hstage]; exact id)
    rw [hstage] at hmore hsame
    refine ⟨h.going.setStage _ ha ?_, ⟨_, vs, ?_, hsame, hafter⟩, ?_⟩
    · rintro _ ⟨⟩
      exact howesNext
    · cases hwritten : next.isWritten <;>
        simpa [Queue.wrote, Work.Stage.hasWritten, hopen, hwritten] using hmore
    · intro result hresult
      cases hpart.symm.trans hresult
  · obtain ⟨-, hend⟩ := hworked.advance hsteady hbegun a.workUnit part howes hseparate _ _ hpart
    obtain ⟨htold, hafter⟩ := hend result rfl
    have hmore := Queue.perm_those_setStage Work.Stage.hasWritten
      (.worked (Queue.outcomeOf a.workUnit result)) hwrote ha fun _ => rfl
    have hranMore := Queue.perm_those_setStage Work.Stage.hasRun
      (.worked (Queue.outcomeOf a.workUnit result)) hran ha fun _ => rfl
    rw [hstage] at hmore hranMore
    refine ⟨h.going.setStage _ ha ?_, ⟨_, _, hmore, hranMore, hafter⟩, ?_⟩
    · intro _ hworking
      cases hworking
    · intro other hother
      cases hpart.symm.trans hother
      exact htold

/-- A unit takes a step, in which it may be worked on. In a step outside its work only its stage
changes, which is none of the files, of the rows or of what is owed. -/
theorem Kept.step (h : Kept setup around answer begun past s)
    (hunits : Separate begun.files.lookup (units setup around begun past)) (i : Nat) :
    Kept setup around answer begun past (s.turn setup around (.step i)) := by
  simp only [Underway.turn]
  cases hstep : s.queue.step? around i s.world with
  | none => exact h
  | some next =>
    obtain ⟨q, w⟩ := next
    obtain ⟨a, ha, hadvance⟩ := Queue.exists_advance hstep
    obtain ⟨order, hledger⟩ := h.ledger
    have hsound := h.sound.advance ha hadvance
    have hsame := hadvance.workUnits_eq.trans h.made
    rcases hadvance.working_or_same ha with ⟨part, hstage⟩ | ⟨hidle, hwrote, hran, rfl⟩
    · obtain ⟨hgoing, hworked, hresult⟩ :=
        h.work hsteady hbegun hunits i a part q w ha hstage hadvance
      obtain ⟨later, hlater⟩ := hledger.advance ha hadvance fun other result hother hends => by
        cases hstage.symm.trans hother
        rw [hresult result hends, outcome]
      exact ⟨hsame, h.result, hsound, ⟨later, hlater⟩, hgoing, hworked⟩
    · obtain ⟨us, vs, husPerm, hvsPerm, hworked⟩ := h.worked
      obtain ⟨later, hlater⟩ := hledger.advance ha hadvance fun part _ hstage =>
        absurd hstage (hidle part)
      have hgoing := h.going.advance ha hadvance trivial fun part _ hstage =>
        absurd hstage (hidle part)
      exact ⟨hsame, h.result, hsound, ⟨later, hlater⟩, hgoing, us, vs, hwrote ▸ husPerm,
        hran ▸ hvsPerm, hworked⟩

omit hsteady hbegun in
theorem Kept.wait (h : Kept setup around answer begun past s) :
    Kept setup around answer begun past (s.turn setup around .wait) := by
  simp only [Underway.turn]
  cases hwait : s.queue.wait? with
  | none => exact h
  | some next =>
    obtain ⟨order, hledger⟩ := h.ledger
    obtain ⟨waiter, rfl⟩ := Queue.exists_waiter hwait
    exact ⟨h.made, h.result, h.sound.wait hwait, ⟨order, hledger.withWaiter waiter⟩, h.going,
      h.worked⟩

/-- Whatever the turns are, the accounts are kept. By induction on the turns: what the accounts
say after one turn is what the next one needs. -/
theorem Kept.play {items : List Json} (hitems : ∀ value ∈ items, NamesSource value)
    (hunits : Separate begun.files.lookup (units setup around begun items))
    (hpast : past ++ s.left = items) (h : Kept setup around answer begun past s)
    (turns : List Turn) :
    ∃ handed, handed ++ (s.play setup around turns).left = items ∧
      Kept setup around answer begun handed (s.play setup around turns) := by
  induction turns generalizing past s with
  | nil => exact ⟨past, hpast, h⟩
  | cons t rest ih =>
    have hfront : Separate begun.files.lookup (units setup around begun past) := by
      rw [← hpast, units_append] at hunits
      exact hunits.sublist (List.sublist_append_left _ _)
    cases t with
    | item =>
      cases hleft : s.left with
      | nil =>
        have hsame : s.turn setup around .item = s := by simp only [Underway.turn, hleft]
        have hrest := ih hpast h
        rwa [← hsame] at hrest
      | cons value more =>
        have hvalue := hitems value (by simp [← hpast, hleft])
        have hmore : (s.turn setup around .item).left = more := by simp only [Underway.turn, hleft]
        exact ih (by rw [hmore, List.append_assoc, ← hpast, hleft]; rfl)
          (h.item value more hleft hvalue)
    | step i =>
      have hsame : (s.turn setup around (.step i)).left = s.left := by
        simp only [Underway.turn]
        split <;> rfl
      exact ih (by rw [hsame]; exact hpast) (h.step hsteady hbegun hfront i)
    | wait => exact ih hpast h.wait

end

section

variable (setup : Setup) (around : Surroundings)

namespace Underway

theorem play_append (s : Underway) (turns more : List Turn) :
    s.play setup around (turns ++ more) = (s.play setup around turns).play setup around more :=
  List.foldl_append

theorem play_items (items : List Json) (r : Result) (q : Queue) (w : World) :
    (⟨items, r, q, w⟩ : Underway).play setup around (List.replicate items.length .item) =
      ⟨[], (queueFrom setup around w items r q).1, (queueFrom setup around w items r q).2, w⟩ := by
  induction items generalizing r q with
  | nil => rfl
  | cons value rest ih =>
    exact ih (r.add (queueItem setup around value w q).1) (queueItem setup around value w q).2

/-- Several steps of one unit are as many turns of a run, and no item is handed on in between. -/
theorem play_steps (items : List Json) (r : Result) (i n : Nat) (state : Queue × World) :
    (⟨items, r, state.1, state.2⟩ : Underway).play setup around (List.replicate n (.step i)) =
      ⟨items, r, (Queue.stepMany around i n state).1, (Queue.stepMany around i n state).2⟩ := by
  induction n generalizing state with
  | zero => rfl
  | succ n ih =>
    obtain ⟨q, w⟩ := state
    rw [List.replicate_succ, play, List.foldl_cons, ← play, turn, Queue.stepMany]
    cases hstep : q.step? around i w with
    | some next => exact ih next
    | none =>
      -- A unit that cannot go on now cannot go on after it was asked to again.
      simp only
      rw [ih (q, w)]
      cases n with
      | zero => rfl
      | succ n => simp only [Queue.stepMany, hstep]

theorem play_inOrder (items : List Json) (r : Result) (order : List Nat) (state : Queue × World) :
    (⟨items, r, state.1, state.2⟩ : Underway).play setup around
        (order.flatMap fun i => List.replicate Queue.stepCount (.step i)) =
      ⟨items, r, (Queue.runInOrder around order state.1 state.2).1,
        (Queue.runInOrder around order state.1 state.2).2⟩ := by
  induction order generalizing state with
  | nil => rfl
  | cons i rest ih =>
    rw [List.flatMap_cons, play_append, play_steps, ih]
    rfl

/-- Handing all items on and then draining the queue is a way through it. -/
theorem exists_play_runQueued (workers : Nat) (items : List Json) (w : World) :
    ∃ turns, (start workers items w).play setup around turns =
      ⟨[], (runQueued setup around workers items w).1, (runQueued setup around workers items w).2.1,
        (runQueued setup around workers items w).2.2⟩ := by
  let handed := queueFrom setup around w items .empty (Queue.make workers)
  refine ⟨List.replicate items.length .item ++ (List.range handed.2.units.length).flatMap fun i =>
    List.replicate Queue.stepCount (.step i), ?_⟩
  rw [play_append, start, play_items]
  exact play_inOrder setup around [] handed.1 (List.range handed.2.units.length) (handed.2, w)

end Underway

theorem quiet_queueFrom (w : World) (items : List Json) (r : Result) (q : Queue) (h : q.Quiet []) :
    (queueFrom setup around w items r q).2.Quiet [] := by
  induction items generalizing r q with
  | nil => exact h
  | cons value rest ih =>
    have hitem : (queueItem setup around value w q).2.Quiet [] := by
      rw [queueItem]
      split
      · exact h
      · split
        · exact h
        · rename_i u _ _ q' hq
          exact h.enqueue _ u hq
    exact ih _ _ hitem

/-- Draining leaves nothing to wait for. -/
theorem owing_runQueued (workers : Nat) (items : List Json) (w : World) :
    (runQueued setup around workers items w).2.1.owing = 0 :=
  (quiet_queueFrom setup around w items .empty _ (Queue.quiet_make workers)).owing_drain around w

end

end Subtitling.Batch
