import Subtitling.Proofs.Work.Deed
import Subtitling.Proofs.Work.Queue

/-!
Units that go through a queue to their end. The parts of the work on a unit are steps among those
that it takes, and once nothing is pending each unit has been worked on and has its outcome.
There is always a way to get there: taken one after the other, the units go through all their
stages.
-/

namespace Subtitling.Work

/-- Whether the work on a unit in this stage has come to its end. -/
def Stage.hasRun : Stage → Bool
  | .waiting => false
  | .working _ => false
  | _ => true

/-- Whether a unit in this stage will write no more. -/
def Stage.hasWritten : Stage → Bool
  | .working part => part.isWritten
  | stage => stage.hasRun

/-- The most parts that the work on a unit has yet to come to. -/
def WorkUnit.Part.ahead : Part → Nat
  | .begun => 4
  | .read _ => 3
  | .translated _ _ => 2
  | .written => 1

/-- Each part brings the work on a unit nearer to its end. So the work ends after four of them at
most. -/
theorem WorkUnit.ahead_lt (u : WorkUnit) (around : Surroundings) (part next : Part)
    (w later : World) (h : u.advance around part w = (.inl next, later)) :
    next.ahead < part.ahead := by
  cases part with
  | begun =>
    simp only [advance] at h
    split at h
    · cases h
    · split at h
      · cases h
      · cases h
        simp [Part.ahead]
  | read track =>
    simp only [advance] at h
    split at h
    · cases h
    · cases h
      simp [Part.ahead]
  | translated track lines =>
    simp only [advance] at h
    split at h
    · cases h
    · cases h
      simp [Part.ahead]
  | written => cases h

/-- The most steps that a unit has yet to take. -/
def Stage.ahead : Stage → Nat
  | .waiting => 9
  | .working part => 4 + part.ahead
  | .worked _ => 4
  | .released _ => 3
  | .recorded => 2
  | .settled => 1
  | .finished => 0

theorem Stage.ahead_eq_zero (s : Stage) (h : s.ahead = 0) : s = .finished := by
  cases s <;> simp_all [ahead]

theorem Stage.ahead_le (s : Stage) : s.ahead ≤ Queue.stepCount := by
  cases s with
  | working part => cases part <;> simp [ahead, WorkUnit.Part.ahead, Queue.stepCount]
  | _ => simp [ahead, Queue.stepCount]

namespace Queue

variable {around : Surroundings} {i : Nat} {a : Accepted} {q q' : Queue} {w w' : World}

/-- The accepted units in stages of some kind, in the order in which they were accepted. -/
def those (q : Queue) (p : Stage → Bool) : List WorkUnit :=
  (q.units.filter fun a => p a.stage).map Accepted.workUnit

def wrote (q : Queue) : List WorkUnit := q.those Stage.hasWritten

def ran (q : Queue) : List WorkUnit := q.those Stage.hasRun

theorem those_sublist (q : Queue) (p : Stage → Bool) : (q.those p).Sublist q.workUnits :=
  List.Sublist.map _ List.filter_sublist

theorem those_enqueue (p : Stage → Bool) (hp : p .waiting = false) (cancelled : Bool) (u : WorkUnit)
    (h : q.enqueue cancelled u = .ok q') : q'.those p = q.those p := by
  rw [enqueue] at h
  split at h
  · cases h
  · cases h
    simp [those, hp]

section

variable {α β : Type} (p : α → Bool) (f : α → α) (g : α → β) (xs : List α) (x : α)

/-- Changing one element in a way that the test and the reading do not notice leaves what is read
of those that pass. -/
theorem map_filter_modify (h : xs[i]? = some x) (hp : p (f x) = p x) (hg : g (f x) = g x) :
    ((xs.modify i f).filter p).map g = (xs.filter p).map g := by
  induction xs generalizing i with
  | nil => cases h
  | cons y rest ih =>
    cases i with
    | zero =>
      obtain rfl : y = x := by simpa using h
      rw [List.modify_zero_cons, List.filter_cons, List.filter_cons, hp]
      split
      · rw [List.map_cons, List.map_cons, hg]
      · rfl
    | succ i =>
      have hrest := ih (i := i) (by simpa using h)
      rw [List.modify_succ_cons, List.filter_cons, List.filter_cons]
      split
      · rw [List.map_cons, List.map_cons, hrest]
      · exact hrest

/-- An element that comes to pass the test is read along with the others, at a place that need
not be the last. -/
theorem map_filter_modify_perm (h : xs[i]? = some x) (hbefore : p x = false) (hp : p (f x) = true) :
    (((xs.modify i f).filter p).map g).Perm (g (f x) :: (xs.filter p).map g) := by
  induction xs generalizing i with
  | nil => cases h
  | cons y rest ih =>
    cases i with
    | zero =>
      obtain rfl : y = x := by simpa using h
      rw [List.modify_zero_cons, List.filter_cons_of_pos hp,
        List.filter_cons_of_neg (by simp [hbefore])]
      exact List.Perm.refl _
    | succ i =>
      have hrest := ih (i := i) (by simpa using h)
      rw [List.modify_succ_cons, List.filter_cons, List.filter_cons]
      split
      · exact (hrest.cons (g y)).trans (List.Perm.swap _ _ _)
      · exact hrest

end

section
variable (p : Stage → Bool) (s : Stage)

theorem those_setStage (h : q.units[i]? = some a) (hs : p s = p a.stage) :
    (q.setStage i s).those p = q.those p :=
  map_filter_modify (fun b : Accepted => p b.stage) (fun b => { b with stage := s })
    Accepted.workUnit q.units a h hs rfl

theorem those_setStage_perm (h : q.units[i]? = some a) (hbefore : p a.stage = false)
    (hs : p s = true) : ((q.setStage i s).those p).Perm (q.those p ++ [a.workUnit]) := by
  have hmore := map_filter_modify_perm (fun b : Accepted => p b.stage)
    (fun b => { b with stage := s }) Accepted.workUnit q.units a h hbefore hs
  exact hmore.trans (List.perm_append_singleton a.workUnit (q.those p)).symm

/-- A unit that never leaves the units with a property comes to them at most once, and then beside
those that were among them before. -/
theorem perm_those_setStage {us : List WorkUnit} (hus : us.Perm (q.those p))
    (h : q.units[i]? = some a) (hstay : p a.stage = true → p s = true) :
    (if p a.stage = p s then us else us ++ [a.workUnit]).Perm ((q.setStage i s).those p) := by
  by_cases hsame : p a.stage = p s
  · rw [if_pos hsame, those_setStage p s h hsame.symm]
    exact hus
  · rw [if_neg hsame]
    have hbefore : p a.stage = false := by
      cases ha : p a.stage with
      | false => rfl
      | true => exact absurd (ha.trans (hstay ha).symm) hsame
    have hs : p s = true := by
      rw [hbefore, eq_comm, Bool.not_eq_false] at hsame
      exact hsame
    exact (hus.append_right [a.workUnit]).trans (those_setStage_perm p s h hbefore hs).symm

/-- A unit that is not among some others is one of the accepted units beside them. -/
theorem exists_sublist_those (h : q.units[i]? = some a) (hbefore : p a.stage = false)
    (hs : p s = true) : ∃ us : List WorkUnit, us.Sublist q.workUnits ∧
      us.Perm (q.those p ++ [a.workUnit]) :=
  ⟨_, workUnits_setStage (q := q) (i := i) s ▸ (q.setStage i s).those_sublist p,
    those_setStage_perm p s h hbefore hs⟩

end

/-- Steps outside the work on a unit leave the world as it is, and the same units have been worked
on. -/
theorem Advance.working_or_same (h : q.units[i]? = some a) (hstep : Advance around i a q w q' w') :
    (∃ part, a.stage = .working part) ∨
      (∀ part, a.stage ≠ .working part) ∧ q'.wrote = q.wrote ∧ q'.ran = q.ran ∧ w' = w := by
  have hsame (s : Stage) (hwritten : s.hasWritten = a.stage.hasWritten)
      (hrun : s.hasRun = a.stage.hasRun) :
      (q.setStage i s).wrote = q.wrote ∧ (q.setStage i s).ran = q.ran ∧ w = w :=
    ⟨those_setStage _ s h hwritten, those_setStage _ s h hrun, rfl⟩
  cases hstep with
  | pass part next later hstage hpart => exact .inl ⟨part, hstage⟩
  | work part result later hstage hpart => exact .inl ⟨part, hstage⟩
  | place hstage hfree =>
    exact .inr ⟨by simp [hstage], hsame _ (by rw [hstage]; rfl) (by rw [hstage]; rfl)⟩
  | release outcome hstage =>
    exact .inr ⟨by simp [hstage], hsame _ (by rw [hstage]; rfl) (by rw [hstage]; rfl)⟩
  | record outcome hstage =>
    exact .inr ⟨by simp [hstage], hsame .recorded (by rw [hstage]; rfl) (by rw [hstage]; rfl)⟩
  | settle hstage =>
    exact .inr ⟨by simp [hstage], hsame .settled (by rw [hstage]; rfl) (by rw [hstage]; rfl)⟩
  | finish hstage =>
    exact .inr ⟨by simp [hstage], hsame .finished (by rw [hstage]; rfl) (by rw [hstage]; rfl)⟩

/-- A step in the work on a unit takes it to the next part, or to its end. -/
theorem Advance.of_working (part : WorkUnit.Part) (hstage : a.stage = .working part)
    (hstep : Advance around i a q w q' w') :
    (∃ next, a.workUnit.advance around part w = (.inl next, w') ∧
        q' = q.setStage i (.working next)) ∨
      ∃ result, a.workUnit.advance around part w = (.inr result, w') ∧
        q' = q.setStage i (.worked (outcomeOf a.workUnit result)) := by
  cases hstep with
  | pass other next later hother hpart =>
    cases hstage.symm.trans hother
    exact .inl ⟨next, hpart, rfl⟩
  | work other result later hother hpart =>
    cases hstage.symm.trans hother
    exact .inr ⟨result, hpart, rfl⟩
  | place hother hfree => cases hstage.symm.trans hother
  | release outcome hother => cases hstage.symm.trans hother
  | record outcome hother => cases hstage.symm.trans hother
  | settle hother => cases hstage.symm.trans hother
  | finish hother => cases hstage.symm.trans hother

theorem those_of_owing (p : Stage → Bool) (hp : ∀ s : Stage, s.isPending = false → p s = true)
    (h : q.owing = 0) : q.those p = q.workUnits := by
  rw [those, List.filter_eq_self.mpr, workUnits]
  intro b hb
  have hnot := List.countP_eq_zero.mp h b hb
  exact hp b.stage (by simpa using hnot)

theorem ran_of_owing (h : q.owing = 0) : q.ran = q.workUnits :=
  those_of_owing _ (fun s hs => by cases s <;> simp_all [Stage.hasRun, Stage.isPending]) h

theorem wrote_of_owing (h : q.owing = 0) : q.wrote = q.workUnits :=
  those_of_owing _
    (fun s hs => by cases s <;> simp_all [Stage.hasWritten, Stage.hasRun, Stage.isPending]) h

/-- Where the outcome of a unit follows from the unit, the outcomes are those of all units once
nothing is pending. -/
theorem Ledger.outcomes_perm {order : List Nat} (g : WorkUnit → Outcome)
    (hq : Ledger (fun u outcome => outcome = g u) q order) (h : q.owing = 0) :
    q.outcomes.Perm (q.workUnits.map g) := by
  let at? (j : Nat) : Option Outcome := q.workUnits[j]?.map g
  have houtcomes : q.outcomes.map some = order.map at? := by
    have hall := hq.outcomes
    clear hq
    generalize q.outcomes = outcomes at hall ⊢
    induction hall with
    | nil => rfl
    | cons hfirst _ ih =>
      obtain ⟨u, hu, rfl⟩ := hfirst
      rw [List.map_cons, List.map_cons, ih]
      simp [at?, hu]
  have hwhole : (List.range q.units.length).map at? = (q.workUnits.map g).map some := by
    apply List.ext_getElem?
    intro j
    by_cases hj : j < q.units.length <;> simp [at?, workUnits, hj]
  apply (List.map_perm_map_iff fun _ _ => Option.some.inj).mp
  rw [houtcomes, ← hwhole]
  exact (hq.perm_range h).map at?

theorem units_setStage_of_getElem? (h : q.units[i]? = some a) (s : Stage) :
    (q.setStage i s).units = q.units.set i ⟨a.workUnit, s⟩ := by
  apply List.ext_getElem?
  intro j
  rw [units_setStage, List.getElem?_modify, List.getElem?_set]
  by_cases hij : i = j
  · subst hij
    have hi := (List.getElem?_eq_some_iff.mp h).1
    simp only [h, hi, if_true, Option.map_eq_map, Option.map_some]
  · simp [hij]

variable (around)

/-- A unit that has not finished, and need not wait for a place, goes on, and no other does. Its
steps ahead get fewer by each of them, which is why a queue comes to its end. -/
theorem exists_step (h : q.units[i]? = some a) (hs : a.stage ≠ .finished)
    (hplace : a.stage = .waiting → q.taken < q.places) :
    ∃ q' w' s, q.step? around i w = some (q', w') ∧ q'.units = q.units.set i ⟨a.workUnit, s⟩ ∧
      q'.places = q.places ∧ s.ahead < a.stage.ahead ∧ s ≠ .waiting := by
  have hset (s : Stage) := units_setStage_of_getElem? h s
  cases hstage : a.stage with
  | waiting =>
    refine ⟨q.setStage i (.working .begun), w, .working .begun, ?_, hset _, rfl,
      by simp [Stage.ahead, WorkUnit.Part.ahead], by simp⟩
    simp only [step?, h, hstage, hplace hstage, if_true]
  | working part =>
    cases hpart : a.workUnit.advance around part w with
    | mk result later =>
      cases result with
      | inl next =>
        have hless := a.workUnit.ahead_lt around part next w later hpart
        refine ⟨q.setStage i (.working next), later, .working next, ?_, hset _, rfl,
          Nat.add_lt_add_left hless 4, by simp⟩
        simp only [step?, h, hstage, hpart]
      | inr result =>
        let outcome := outcomeOf a.workUnit result
        refine ⟨q.setStage i (.worked outcome), later, .worked outcome, ?_, hset _, rfl, ?_,
          by simp⟩
        · simp only [step?, h, hstage, hpart, outcome]
        · cases part <;> simp [Stage.ahead, WorkUnit.Part.ahead]
  | worked outcome =>
    refine ⟨q.setStage i (.released outcome), w, .released outcome, ?_, hset _,
      rfl, by simp [Stage.ahead], by simp⟩
    simp only [step?, h, hstage]
  | released outcome =>
    refine ⟨{ q.setStage i .recorded with outcomes := q.outcomes ++ [outcome] }, w, .recorded, ?_,
      hset _, rfl, by simp [Stage.ahead], by simp⟩
    simp only [step?, h, hstage]
  | recorded =>
    refine ⟨{ q.setStage i .settled with pending := q.pending - 1 }, w, .settled, ?_, hset _, rfl,
      by simp [Stage.ahead], by simp⟩
    simp only [step?, h, hstage]
  | settled =>
    refine ⟨{ q.setStage i .finished with waiter := q.waiter.notify }, w, .finished, ?_, hset _,
      rfl, by simp [Stage.ahead], by simp⟩
    simp only [step?, h, hstage]
  | finished => exact absurd hstage hs

theorem set_finished (h : q.units[i]? = some a) (hfinished : a.stage = .finished) :
    q.units.set i ⟨a.workUnit, .finished⟩ = q.units := by
  obtain ⟨hi, hget⟩ := List.getElem?_eq_some_iff.mp h
  have hsame : a = ⟨a.workUnit, .finished⟩ := by rw [← hfinished]
  rw [← hsame, ← hget, List.set_getElem_self]

/-- As many steps as a unit has ahead of it take it to its end. By induction on the number of
steps, each of which leaves fewer ahead; steps beyond the end change nothing. -/
theorem units_stepMany (n : Nat) (h : q.units[i]? = some a) (hn : a.stage.ahead ≤ n)
    (hplace : a.stage = .waiting → q.taken < q.places) :
    (stepMany around i n (q, w)).1.units = q.units.set i ⟨a.workUnit, .finished⟩ ∧
      (stepMany around i n (q, w)).1.places = q.places := by
  induction n generalizing q w a with
  | zero => exact ⟨(set_finished h (a.stage.ahead_eq_zero (by omega))).symm, rfl⟩
  | succ n ih =>
    by_cases hs : a.stage = .finished
    · have hnone : q.step? around i w = none := by simp only [step?, h, hs]
      simp only [stepMany, hnone, and_true]
      exact (set_finished h hs).symm
    · obtain ⟨q', w', s, hstep, hunits, hplaces, hahead, hgoing⟩ :=
        exists_step around (w := w) h hs hplace
      have hnext : q'.units[i]? = some ⟨a.workUnit, s⟩ := by
        rw [hunits, List.getElem?_set_self (List.getElem?_eq_some_iff.mp h).1]
      obtain ⟨hdone, hsame⟩ := ih (w := w') hnext (by simp only; omega)
        fun hwaiting => absurd hwaiting hgoing
      simp only [stepMany, hstep]
      exact ⟨by rw [hdone, hunits, List.set_set], by rw [hsame, hplaces]⟩

/-- Some units have finished, and all others wait for a place. -/
def Quiet (q : Queue) (done : List Nat) : Prop :=
  0 < q.places ∧ ∀ j a, q.units[j]? = some a →
    a.stage = .finished ∨ a.stage = .waiting ∧ j ∉ done

theorem Quiet.taken_eq_zero {done : List Nat} (h : q.Quiet done) : q.taken = 0 := by
  rw [taken, List.countP_eq_zero]
  intro b hb
  obtain ⟨j, hj⟩ := List.mem_iff_getElem?.mp hb
  rcases h.2 j b hj with hfinished | ⟨hwaiting, -⟩
  · simp [hfinished, Stage.holdsPlace]
  · simp [hwaiting, Stage.holdsPlace]

/-- One unit more has finished after its steps. The others have their stages as before, and again
no place is taken. -/
theorem Quiet.stepMany {done : List Nat} (h : q.Quiet done) (i : Nat) (w : World) :
    (stepMany around i stepCount (q, w)).1.Quiet (done ++ [i]) := by
  cases hi : q.units[i]? with
  | none =>
    have hstays : (Queue.stepMany around i stepCount (q, w)).1 = q := by
      simp only [stepCount, Queue.stepMany, step?, hi]
    rw [hstays]
    refine ⟨h.1, fun j a hj => ?_⟩
    rcases h.2 j a hj with hfinished | ⟨hwaiting, hnot⟩
    · exact .inl hfinished
    · refine .inr ⟨hwaiting, ?_⟩
      rw [List.mem_append, List.mem_singleton]
      rintro (hdone | rfl)
      · exact hnot hdone
      · rw [hi] at hj
        cases hj
  | some a =>
    have hfree : q.taken < q.places := by
      rw [h.taken_eq_zero]
      exact h.1
    obtain ⟨hunits, hplaces⟩ := units_stepMany around (w := w) stepCount hi a.stage.ahead_le
      fun _ => hfree
    refine ⟨hplaces ▸ h.1, fun j b hj => ?_⟩
    rw [hunits, List.getElem?_set] at hj
    split at hj
    · split at hj
      · exact .inl (Option.some.inj hj ▸ rfl)
      · cases hj
    · rename_i hij
      rcases h.2 j b hj with hfinished | ⟨hwaiting, hnot⟩
      · exact .inl hfinished
      · refine .inr ⟨hwaiting, ?_⟩
        rw [List.mem_append, List.mem_singleton]
        rintro (hdone | rfl)
        · exact hnot hdone
        · exact hij rfl

theorem Quiet.runInOrder {done : List Nat} (h : q.Quiet done) (order : List Nat) (w : World) :
    (runInOrder around order q w).1.Quiet (done ++ order) := by
  induction order generalizing done q w with
  | nil => simpa [Queue.runInOrder] using h
  | cons i rest ih =>
    have hrest := ih (h.stepMany around i w) (Queue.stepMany around i stepCount (q, w)).2
    rw [List.append_assoc, List.singleton_append] at hrest
    exact hrest

theorem workUnits_stepMany (i n : Nat) (state : Queue × World) :
    (stepMany around i n state).1.workUnits = state.1.workUnits := by
  induction n generalizing state with
  | zero => rfl
  | succ n ih =>
    obtain ⟨q, w⟩ := state
    cases hstep : q.step? around i w with
    | none => simp only [Queue.stepMany, hstep]
    | some next =>
      obtain ⟨a, -, hadvance⟩ := exists_advance hstep
      simp only [Queue.stepMany, hstep, ih, hadvance.workUnits_eq]

theorem workUnits_runInOrder (order : List Nat) (q : Queue) (w : World) :
    (runInOrder around order q w).1.workUnits = q.workUnits := by
  induction order generalizing q w with
  | nil => rfl
  | cons i rest ih =>
    exact (ih _ (Queue.stepMany around i stepCount (q, w)).2).trans
      (workUnits_stepMany around i stepCount (q, w))

/-- Where none of the units has left the start, draining takes all of them to their ends. -/
theorem Quiet.owing_drain (h : q.Quiet []) (w : World) : (q.drain around w).1.owing = 0 := by
  have hdone := h.runInOrder around (List.range q.units.length) w
  have hlength : (q.drain around w).1.units.length = q.units.length := by
    simpa [workUnits, drain] using congrArg List.length (workUnits_runInOrder around _ q w)
  rw [owing, List.countP_eq_zero]
  intro b hb
  obtain ⟨j, hj⟩ := List.mem_iff_getElem?.mp hb
  have hin := (List.getElem?_eq_some_iff.mp hj).1
  rcases hdone.2 j b hj with hfinished | ⟨-, hnot⟩
  · simp [hfinished, Stage.isPending]
  · exact absurd (List.mem_range.mpr (hlength ▸ hin)) (by simpa using hnot)

theorem quiet_make (workers : Nat) : (make workers).Quiet [] :=
  ⟨Nat.le_max_right workers 1, by simp [make]⟩

theorem Quiet.enqueue (h : q.Quiet []) (cancelled : Bool) (u : WorkUnit)
    (hq : q.enqueue cancelled u = .ok q') : q'.Quiet [] := by
  rw [Queue.enqueue] at hq
  split at hq
  · cases hq
  · cases hq
    refine ⟨h.1, fun j a hj => ?_⟩
    rcases List.mem_append.mp (List.mem_of_getElem? hj) with hold | hnew
    · obtain ⟨k, hk⟩ := List.mem_iff_getElem?.mp hold
      rcases h.2 k a hk with hfinished | ⟨hwaiting, -⟩
      · exact .inl hfinished
      · exact .inr ⟨hwaiting, List.not_mem_nil⟩
    · obtain rfl := List.mem_singleton.mp hnew
      exact .inr ⟨rfl, List.not_mem_nil⟩

end Queue

end Subtitling.Work
