import Mathlib.Data.List.Nodup
import Mathlib.Data.List.Perm.Basic
import Subtitling.Work.Queue

/-!
The accounts of a queue. Places, pending units, outcomes and whoever waits are kept apart from each
other and change at different steps of a unit, but all of them can be read off the stages that the
units are in. Whatever order the steps come in, with units offered and someone waiting in between,
each step keeps these accounts.
-/

namespace Subtitling.Work

/-- Whether a unit in this stage counts as pending. -/
def Stage.isPending : Stage → Bool
  | .settled => false
  | .finished => false
  | _ => true

/-- Whether the outcome of a unit in this stage is among those of the queue. -/
def Stage.isRecorded : Stage → Bool
  | .recorded => true
  | .settled => true
  | .finished => true
  | _ => false

/-- The outcome that a unit in this stage has with it. -/
def Stage.carried? : Stage → Option Outcome
  | .worked outcome => some outcome
  | .released outcome => some outcome
  | _ => none

theorem Stage.isRecorded_of_not_isPending (s : Stage) (h : s.isPending = false) :
    s.isRecorded = true := by
  cases s <;> simp_all [isPending, isRecorded]

namespace Queue

/-- The accepted units, in the order in which they were accepted. -/
def workUnits (q : Queue) : List WorkUnit := q.units.map Accepted.workUnit

/-- All that a step of the accepted unit `a`, which is the one with number `i`, can do. -/
inductive Advance (around : Surroundings) (i : Nat) (a : Accepted) (q : Queue) (w : World) :
    Queue → World → Prop
  | place (hstage : a.stage = .waiting) (hfree : q.taken < q.places) :
      Advance around i a q w (q.setStage i (.working .begun)) w
  | pass (part next : WorkUnit.Part) (later : World) (hstage : a.stage = .working part)
      (hpart : a.workUnit.advance around part w = (.inl next, later)) :
      Advance around i a q w (q.setStage i (.working next)) later
  | work (part : WorkUnit.Part) (result : Except Error String) (later : World)
      (hstage : a.stage = .working part)
      (hpart : a.workUnit.advance around part w = (.inr result, later)) :
      Advance around i a q w (q.setStage i (.worked (outcomeOf a.workUnit result))) later
  | release (outcome : Outcome) (hstage : a.stage = .worked outcome) :
      Advance around i a q w (q.setStage i (.released outcome)) w
  | record (outcome : Outcome) (hstage : a.stage = .released outcome) :
      Advance around i a q w
        { q.setStage i .recorded with outcomes := q.outcomes ++ [outcome] } w
  | settle (hstage : a.stage = .recorded) :
      Advance around i a q w { q.setStage i .settled with pending := q.pending - 1 } w
  | finish (hstage : a.stage = .settled) :
      Advance around i a q w { q.setStage i .finished with waiter := q.waiter.notify } w

variable {around : Surroundings} {i : Nat} {a : Accepted} {q q' : Queue} {w w' : World}

/-- Every step of a queue is one of the ways in which a unit can advance, and the stage of the
unit tells which. -/
theorem exists_advance (h : q.step? around i w = some (q', w')) :
    ∃ a, q.units[i]? = some a ∧ Advance around i a q w q' w' := by
  rw [step?] at h
  cases hunit : q.units[i]? with
  | none => simp [hunit] at h
  | some a =>
    refine ⟨a, rfl, ?_⟩
    simp only [hunit] at h
    cases hstage : a.stage with
    | waiting =>
      simp only [hstage] at h
      split at h
      · rename_i hfree
        cases h
        exact .place hstage hfree
      · cases h
    | working part =>
      cases hpart : a.workUnit.advance around part w with
      | mk result later =>
        cases result with
        | inl next =>
          simp only [hstage, hpart] at h
          cases h
          exact .pass part next _ hstage hpart
        | inr result =>
          simp only [hstage, hpart] at h
          cases h
          exact .work part result _ hstage hpart
    | worked outcome =>
      simp only [hstage] at h
      cases h
      exact .release outcome hstage
    | released outcome =>
      simp only [hstage] at h
      cases h
      exact .record outcome hstage
    | recorded =>
      simp only [hstage] at h
      cases h
      exact .settle hstage
    | settled =>
      simp only [hstage] at h
      cases h
      exact .finish hstage
    | finished => simp [hstage] at h

@[simp] theorem units_setStage (s : Stage) :
    (q.setStage i s).units = q.units.modify i fun a => { a with stage := s } := rfl

@[simp] theorem places_setStage (s : Stage) : (q.setStage i s).places = q.places := rfl

@[simp] theorem outcomes_setStage (s : Stage) : (q.setStage i s).outcomes = q.outcomes := rfl

@[simp] theorem pending_setStage (s : Stage) : (q.setStage i s).pending = q.pending := rfl

@[simp] theorem waiter_setStage (s : Stage) : (q.setStage i s).waiter = q.waiter := rfl

@[simp] theorem workUnits_setStage (s : Stage) : (q.setStage i s).workUnits = q.workUnits := by
  apply List.ext_getElem?
  intro j
  simp only [workUnits, units_setStage, List.getElem?_map, List.getElem?_modify]
  cases q.units[j]? with
  | none => rfl
  | some b => by_cases h : i = j <;> simp [h]

theorem Advance.workUnits_eq (h : Advance around i a q w q' w') : q'.workUnits = q.workUnits := by
  cases h <;> exact workUnits_setStage _

theorem Advance.places_eq (h : Advance around i a q w q' w') : q'.places = q.places := by
  cases h <;> rfl

/-- A count after one of the things counted has changed. -/
theorem countP_modify {α : Type} (p : α → Bool) (f : α → α) (xs : List α) (i : Nat) (x : α)
    (h : xs[i]? = some x) :
    (xs.modify i f).countP p + (p x).toNat = xs.countP p + (p (f x)).toNat := by
  induction xs generalizing i with
  | nil => simp at h
  | cons y rest ih =>
    cases i with
    | zero =>
      obtain rfl : y = x := by simpa using h
      rw [List.modify_zero_cons, List.countP_cons, List.countP_cons]
      cases p y <;> cases p (f y) <;> simp
    | succ i =>
      have hrest := ih i (by simpa using h)
      rw [List.modify_succ_cons, List.countP_cons, List.countP_cons]
      omega

def owing (q : Queue) : Nat := q.units.countP fun a => a.stage.isPending

theorem taken_setStage (s : Stage) (h : q.units[i]? = some a) :
    (q.setStage i s).taken + a.stage.holdsPlace.toNat = q.taken + s.holdsPlace.toNat :=
  countP_modify (fun b : Accepted => b.stage.holdsPlace) (fun b => { b with stage := s }) q.units i
    a h

theorem owing_setStage (s : Stage) (h : q.units[i]? = some a) :
    (q.setStage i s).owing + a.stage.isPending.toNat = q.owing + s.isPending.toNat :=
  countP_modify (fun b : Accepted => b.stage.isPending) (fun b => { b with stage := s }) q.units i a
    h

/-- No more places are taken than there are, those units are pending that have yet to say
otherwise, and nobody waits to be told where no unit will tell. -/
structure Sound (q : Queue) : Prop where
  taken_le : q.taken ≤ q.places
  pending_eq : q.pending = q.owing
  awaited : q.waiter = .parked false → ∃ a ∈ q.units, a.stage ≠ .finished

theorem sound_make (workers : Nat) : (make workers).Sound where
  taken_le := Nat.zero_le _
  pending_eq := rfl
  awaited := by simp [make]

theorem Sound.enqueue (hq : q.Sound) (cancelled : Bool) (u : WorkUnit)
    (h : q.enqueue cancelled u = .ok q') : q'.Sound := by
  rw [Queue.enqueue] at h
  split at h
  · cases h
  cases h
  have htaken := hq.taken_le
  have hpending := hq.pending_eq
  refine ⟨?_, ?_, fun _ => ⟨⟨u, .waiting⟩, by simp, by simp⟩⟩
  · rw [taken] at htaken
    simpa [taken, List.countP_append, Stage.holdsPlace] using htaken
  · rw [owing] at hpending
    simpa [owing, List.countP_append, Stage.isPending] using hpending

/-- A unit that goes on without finishing leaves something to wait for. -/
theorem exists_unfinished (s : Stage) (h : q.units[i]? = some a) (hs : s ≠ .finished) :
    ∃ b ∈ (q.setStage i s).units, b.stage ≠ .finished := by
  refine ⟨{ a with stage := s }, ?_, hs⟩
  apply List.mem_of_getElem? (i := i)
  simp [h]

/-- Putting a unit into another stage keeps a queue sound if the unit takes no place that is not
free and counts as pending as it did before. -/
theorem Sound.setStage (hq : q.Sound) (s : Stage) (h : q.units[i]? = some a) (hs : s ≠ .finished)
    (hplace : s.holdsPlace = true → a.stage.holdsPlace = true ∨ q.taken < q.places)
    (hpending : s.isPending = a.stage.isPending) : (q.setStage i s).Sound := by
  have htaken := taken_setStage s h
  have howing := owing_setStage s h
  have hle := hq.taken_le
  have heq := hq.pending_eq
  refine ⟨?_, ?_, fun _ => exists_unfinished s h hs⟩
  · rw [places_setStage]
    cases hheld : s.holdsPlace with
    | false =>
      rw [hheld, Bool.toNat_false] at htaken
      omega
    | true =>
      rw [hheld, Bool.toNat_true] at htaken
      rcases hplace hheld with hold | hfree
      · rw [hold, Bool.toNat_true] at htaken
        omega
      · omega
  · rw [pending_setStage]
    rw [hpending] at howing
    omega

theorem Waiter.notify_ne_parked (waiter : Waiter) : waiter.notify ≠ .parked false := by
  cases waiter <;> simp [Waiter.notify]

/-- Each step keeps the accounts. Places are taken only while there are free ones, and only the
step that says so ends a unit's being pending. -/
theorem Sound.advance (hq : q.Sound) (h : q.units[i]? = some a)
    (hstep : Advance around i a q w q' w') : q'.Sound := by
  cases hstep with
  | place hstage hfree =>
    exact hq.setStage _ h (by simp) (fun _ => .inr hfree) (by rw [hstage]; rfl)
  | pass part next later hstage hpart =>
    exact hq.setStage _ h (by simp) (fun _ => .inl (by rw [hstage]; rfl)) (by rw [hstage]; rfl)
  | work part result later hstage hpart =>
    exact hq.setStage _ h (by simp) (fun _ => .inl (by rw [hstage]; rfl)) (by rw [hstage]; rfl)
  | release outcome hstage =>
    exact hq.setStage _ h (by simp) nofun (by rw [hstage]; rfl)
  | record outcome hstage =>
    have hset := hq.setStage .recorded h (by simp) nofun (by rw [hstage]; rfl)
    exact ⟨hset.taken_le, hset.pending_eq, hset.awaited⟩
  | settle hstage =>
    have htaken := taken_setStage .settled h
    have howing := owing_setStage .settled h
    have hle := hq.taken_le
    have heq := hq.pending_eq
    rw [hstage] at htaken howing
    simp only [Stage.holdsPlace, Stage.isPending, Bool.toNat_true, Bool.toNat_false]
      at htaken howing
    refine ⟨?_, ?_, fun _ => exists_unfinished .settled h (by simp)⟩
    · change (q.setStage i .settled).taken ≤ q.places
      omega
    · change q.pending - 1 = (q.setStage i .settled).owing
      omega
  | finish hstage =>
    have htaken := taken_setStage .finished h
    have howing := owing_setStage .finished h
    have hle := hq.taken_le
    have heq := hq.pending_eq
    rw [hstage] at htaken howing
    simp only [Stage.holdsPlace, Stage.isPending, Bool.toNat_false] at htaken howing
    refine ⟨?_, ?_, fun hparked => absurd hparked (Waiter.notify_ne_parked q.waiter)⟩
    · change (q.setStage i .finished).taken ≤ q.places
      omega
    · change q.pending = (q.setStage i .finished).owing
      omega

theorem exists_waiter (h : q.wait? = some q') : ∃ waiter, q' = { q with waiter := waiter } := by
  rw [wait?] at h
  split at h
  · exact ⟨_, (Option.some.inj h).symm⟩
  · exact ⟨_, (Option.some.inj h).symm⟩
  · exact ⟨_, (Option.some.inj h).symm⟩
  · cases h
  · cases h

/-- The waiter parks only where something is pending. So someone has yet to finish who will tell
it. -/
theorem Sound.wait (hq : q.Sound) (h : q.wait? = some q') : q'.Sound := by
  have hpending := hq.pending_eq
  rw [wait?] at h
  split at h
  · cases h
    exact ⟨hq.taken_le, hpending, by simp⟩
  · cases h
    refine ⟨hq.taken_le, hpending, ?_⟩
    intro hparked
    by_cases hzero : q.pending = 0
    · simp [hzero] at hparked
    · have howing : 0 < q.owing := by omega
      obtain ⟨b, hb, hstage⟩ := List.countP_pos_iff.mp howing
      refine ⟨b, hb, ?_⟩
      intro hfinished
      simp [hfinished, Stage.isPending] at hstage
  · cases h
    exact ⟨hq.taken_le, hpending, by simp⟩
  · cases h
  · cases h

/-- The outcomes of a queue are those of the units in `order`, each of which has been recorded and
is named once. What a unit came to is an outcome that `fits` it. -/
structure Ledger (fits : WorkUnit → Outcome → Prop) (q : Queue) (order : List Nat) : Prop where
  nodup : order.Nodup
  mem_iff : ∀ i, i ∈ order ↔ ∃ a, q.units[i]? = some a ∧ a.stage.isRecorded = true
  outcomes : List.Forall₂ (fun i outcome => ∃ u, q.workUnits[i]? = some u ∧ fits u outcome) order
    q.outcomes
  carried : ∀ a ∈ q.units, ∀ outcome ∈ a.stage.carried?, fits a.workUnit outcome

variable {fits : WorkUnit → Outcome → Prop} {order : List Nat}

theorem ledger_make (workers : Nat) : Ledger fits (make workers) [] where
  nodup := List.nodup_nil
  mem_iff := by simp [make]
  outcomes := .nil
  carried := by simp [make]

/-- A unit that is accepted comes last among the units and has no outcome yet, so the ledger of
outcomes stays as it is. -/
theorem Ledger.enqueue (hq : Ledger fits q order) (cancelled : Bool) (u : WorkUnit)
    (h : q.enqueue cancelled u = .ok q') : Ledger fits q' order := by
  rw [Queue.enqueue] at h
  split at h
  · cases h
  cases h
  refine ⟨hq.nodup, ?_, ?_, ?_⟩
  · intro i
    rw [hq.mem_iff]
    constructor
    · rintro ⟨a, ha, hrecorded⟩
      have hi := (List.getElem?_eq_some_iff.mp ha).1
      exact ⟨a, by rw [List.getElem?_append_left hi, ha], hrecorded⟩
    · rintro ⟨a, ha, hrecorded⟩
      by_cases hi : i < q.units.length
      · rw [List.getElem?_append_left hi] at ha
        exact ⟨a, ha, hrecorded⟩
      · rw [List.getElem?_append_right (by omega)] at ha
        obtain rfl := List.mem_singleton.mp (List.mem_of_getElem? ha)
        cases hrecorded
  · refine hq.outcomes.imp ?_
    rintro i outcome ⟨v, hv, hfits⟩
    refine ⟨v, ?_, hfits⟩
    have hi := (List.getElem?_eq_some_iff.mp hv).1
    rw [workUnits] at hv hi
    rw [workUnits, List.map_append, List.getElem?_append_left hi, hv]
  · intro a ha
    rcases List.mem_append.mp ha with hold | hnew
    · exact hq.carried a hold
    · obtain rfl := List.mem_singleton.mp hnew
      simp [Stage.carried?]

/-- What the units carry after one of them went on. -/
theorem carried_setStage (hq : Ledger fits q order) (s : Stage) (h : q.units[i]? = some a)
    (hcarried : ∀ outcome ∈ s.carried?, fits a.workUnit outcome) :
    ∀ b ∈ (q.setStage i s).units, ∀ outcome ∈ b.stage.carried?, fits b.workUnit outcome := by
  intro b hb
  obtain ⟨j, hj⟩ := List.mem_iff_getElem?.mp hb
  rw [units_setStage, List.getElem?_modify] at hj
  obtain ⟨c, hc, rfl⟩ := Option.map_eq_some_iff.mp hj
  by_cases hij : i = j
  · subst hij
    obtain rfl := Option.some.inj (h.symm.trans hc)
    simpa using hcarried
  · simpa [hij] using hq.carried c (List.mem_of_getElem? hc)

theorem exists_recorded_setStage_iff (s : Stage) (h : q.units[i]? = some a) (j : Nat) :
    (∃ b, (q.setStage i s).units[j]? = some b ∧ b.stage.isRecorded = true) ↔
      if i = j then s.isRecorded = true else
        ∃ b, q.units[j]? = some b ∧ b.stage.isRecorded = true := by
  rw [units_setStage, List.getElem?_modify]
  by_cases hij : i = j
  · subst hij
    simp [h]
  · simp [hij]

theorem Ledger.setStage (hq : Ledger fits q order) (s : Stage) (h : q.units[i]? = some a)
    (hrecorded : s.isRecorded = a.stage.isRecorded)
    (hcarried : ∀ outcome ∈ s.carried?, fits a.workUnit outcome) :
    Ledger fits (q.setStage i s) order := by
  refine ⟨hq.nodup, ?_, ?_, carried_setStage hq s h hcarried⟩
  · intro j
    rw [hq.mem_iff, exists_recorded_setStage_iff s h]
    split
    · rename_i hij
      subst hij
      simp [h, hrecorded]
    · rfl
  · rw [workUnits_setStage, outcomes_setStage]
    exact hq.outcomes

/-- A unit is entered at the end, and only once. Its stage tells that it has not been entered
before. -/
theorem Ledger.record (hq : Ledger fits q order) (outcome : Outcome) (h : q.units[i]? = some a)
    (hstage : a.stage = .released outcome) :
    Ledger fits { q.setStage i .recorded with outcomes := q.outcomes ++ [outcome] }
      (order ++ [i]) := by
  have hnew : i ∉ order := by
    rw [hq.mem_iff]
    rintro ⟨b, hb, hrecorded⟩
    obtain rfl := Option.some.inj (h.symm.trans hb)
    rw [hstage] at hrecorded
    cases hrecorded
  have hfits : fits a.workUnit outcome :=
    hq.carried a (List.mem_of_getElem? h) outcome (by rw [hstage]; rfl)
  have hunit : q.workUnits[i]? = some a.workUnit := by
    rw [workUnits, List.getElem?_map, h]
    rfl
  refine ⟨?_, ?_, ?_, carried_setStage hq .recorded h nofun⟩
  · exact List.nodup_append.mpr ⟨hq.nodup, List.nodup_singleton i, by
      rintro j hj k hk rfl
      obtain rfl := List.mem_singleton.mp hk
      exact hnew hj⟩
  · intro j
    have hmodified := exists_recorded_setStage_iff .recorded h j
    rw [List.mem_append, List.mem_singleton, hq.mem_iff]
    refine Iff.trans ?_ hmodified.symm
    split
    · rename_i hij
      simp [hij, Stage.isRecorded]
    · rename_i hij
      simp [Ne.symm hij]
  · change List.Forall₂ (fun j outcome => ∃ u, (q.setStage i .recorded).workUnits[j]? = some u ∧
      fits u outcome) (order ++ [i]) (q.outcomes ++ [outcome])
    simp only [workUnits_setStage]
    exact List.rel_append hq.outcomes (.cons ⟨a.workUnit, hunit, hfits⟩ .nil)

/-- Each step keeps the outcomes and their units together, if working on a unit comes to what
fits it. -/
theorem Ledger.advance (hq : Ledger fits q order) (h : q.units[i]? = some a)
    (hstep : Advance around i a q w q' w')
    (hends : ∀ part result, a.stage = .working part →
      a.workUnit.advance around part w = (.inr result, w') →
      fits a.workUnit (outcomeOf a.workUnit result)) :
    ∃ later, Ledger fits q' later := by
  cases hstep with
  | place hstage hfree =>
    exact ⟨order, hq.setStage _ h (by rw [hstage]; rfl) nofun⟩
  | pass part next later hstage hpart =>
    exact ⟨order, hq.setStage _ h (by rw [hstage]; rfl) nofun⟩
  | work part result later hstage hpart =>
    refine ⟨order, hq.setStage _ h (by rw [hstage]; rfl) ?_⟩
    rintro outcome ⟨⟩
    exact hends part result hstage hpart
  | release outcome hstage =>
    refine ⟨order, hq.setStage _ h (by rw [hstage]; rfl) ?_⟩
    rintro _ ⟨⟩
    exact hq.carried a (List.mem_of_getElem? h) outcome (by rw [hstage]; rfl)
  | record outcome hstage => exact ⟨order ++ [i], hq.record outcome h hstage⟩
  | settle hstage =>
    have hset := hq.setStage .settled h (by rw [hstage]; rfl) nofun
    exact ⟨order, hset.nodup, hset.mem_iff, hset.outcomes, hset.carried⟩
  | finish hstage =>
    have hset := hq.setStage .finished h (by rw [hstage]; rfl) nofun
    exact ⟨order, hset.nodup, hset.mem_iff, hset.outcomes, hset.carried⟩

theorem Ledger.withWaiter (hq : Ledger fits q order) (waiter : Waiter) :
    Ledger fits { q with waiter := waiter } order :=
  ⟨hq.nodup, hq.mem_iff, hq.outcomes, hq.carried⟩

/-- When nothing is pending, every unit is entered. -/
theorem Ledger.perm_range (hq : Ledger fits q order) (howing : q.owing = 0) :
    order.Perm (List.range q.units.length) := by
  rw [List.perm_ext_iff_of_nodup hq.nodup List.nodup_range]
  intro i
  rw [hq.mem_iff, List.mem_range]
  constructor
  · rintro ⟨a, ha, -⟩
    exact (List.getElem?_eq_some_iff.mp ha).1
  · intro hi
    refine ⟨q.units[i], List.getElem?_eq_getElem hi, ?_⟩
    apply Stage.isRecorded_of_not_isPending
    have hnone := List.countP_eq_zero.mp howing q.units[i] (List.getElem_mem hi)
    simpa using hnone

/-- How far the work on units is that have a place, if each part fits its unit. -/
def Going (fits : WorkUnit → WorkUnit.Part → Prop) (q : Queue) : Prop :=
  ∀ a ∈ q.units, ∀ part, a.stage = .working part → fits a.workUnit part

section
variable {fits : WorkUnit → WorkUnit.Part → Prop}

theorem going_make (workers : Nat) : (make workers).Going fits := by simp [Going, make]

theorem Going.enqueue (hq : q.Going fits) (cancelled : Bool) (u : WorkUnit)
    (h : q.enqueue cancelled u = .ok q') : q'.Going fits := by
  rw [Queue.enqueue] at h
  split at h
  · cases h
  cases h
  intro a ha
  rcases List.mem_append.mp ha with hold | hnew
  · exact hq a hold
  · obtain rfl := List.mem_singleton.mp hnew
    simp

theorem Going.setStage (hq : q.Going fits) (s : Stage) (h : q.units[i]? = some a)
    (hs : ∀ part, s = .working part → fits a.workUnit part) : (q.setStage i s).Going fits := by
  intro b hb
  obtain ⟨j, hj⟩ := List.mem_iff_getElem?.mp hb
  rw [units_setStage, List.getElem?_modify] at hj
  obtain ⟨c, hc, rfl⟩ := Option.map_eq_some_iff.mp hj
  by_cases hij : i = j
  · subst hij
    obtain rfl := Option.some.inj (h.symm.trans hc)
    simpa using hs
  · simpa [hij] using hq c (List.mem_of_getElem? hc)

/-- Each step keeps parts and units together, if work that goes on comes to what fits the unit.
Only a part of the work gives a unit another part; every other step takes its part away or leaves
it without one. -/
theorem Going.advance (hq : q.Going fits) (h : q.units[i]? = some a)
    (hstep : Advance around i a q w q' w') (hbegun : fits a.workUnit .begun)
    (hnext : ∀ part next, a.stage = .working part →
      a.workUnit.advance around part w = (.inl next, w') → fits a.workUnit next) :
    q'.Going fits := by
  cases hstep with
  | place hstage hfree =>
    refine hq.setStage _ h ?_
    rintro _ ⟨⟩
    exact hbegun
  | pass part next later hstage hpart =>
    refine hq.setStage _ h ?_
    rintro _ ⟨⟩
    exact hnext part next hstage hpart
  | work part result later hstage hpart => exact hq.setStage _ h nofun
  | release outcome hstage => exact hq.setStage _ h nofun
  | record outcome hstage => exact hq.setStage .recorded h nofun
  | settle hstage => exact hq.setStage .settled h nofun
  | finish hstage => exact hq.setStage .finished h nofun

end

inductive Move
  | offer (u : WorkUnit)
  | step (i : Nat)
  | wait
  /-- Who is back from waiting waits once more. -/
  | waitAgain
  /-- The world changes from outside, as when the caller cancels. -/
  | outside (w : World)

/-- What is left after a move. One that is not possible, or is refused, changes nothing. -/
def perform (around : Surroundings) (state : Queue × World) : Move → Queue × World
  | .offer u =>
    match state.1.enqueue state.2.session.cancelled u with
    | .ok q => (q, state.2)
    | .error _ => state
  | .step i => (state.1.step? around i state.2).getD state
  | .wait => (state.1.wait?.getD state.1, state.2)
  | .waitAgain =>
    if state.1.waiter = .returned then ({ state.1 with waiter := .away }, state.2) else state
  | .outside w => (state.1, w)

def play (around : Surroundings) (state : Queue × World) (moves : List Move) : Queue × World :=
  moves.foldl (perform around) state

/-- The unit that a move brings in, unless it is refused. -/
def acceptedBy? (w : World) : Move → Option WorkUnit
  | .offer u => if w.session.cancelled then none else some u
  | _ => none

def accepted (around : Surroundings) : Queue × World → List Move → List WorkUnit
  | _, [] => []
  | state, move :: rest =>
    (acceptedBy? state.2 move).toList ++ accepted around (perform around state move) rest

/-- How far the work on a unit can come, each part in whatever world it meets. -/
inductive Reaches (around : Surroundings) (u : WorkUnit) : WorkUnit.Part → Prop
  | begun : Reaches around u .begun
  | next {part next : WorkUnit.Part} {w later : World} (h : Reaches around u part)
      (hpart : u.advance around part w = (.inl next, later)) : Reaches around u next

/-- An outcome that working on a unit can come to, whatever else is done between its parts. -/
def IsOutcome (around : Surroundings) (u : WorkUnit) (outcome : Outcome) : Prop :=
  ∃ part w result later, Reaches around u part ∧
    u.advance around part w = (.inr result, later) ∧ outcome = outcomeOf u result

structure Accounts (around : Surroundings) (q : Queue) : Prop where
  sound : q.Sound
  going : q.Going (Reaches around)
  ledger : ∃ order, Ledger (IsOutcome around) q order

/-- Each move keeps the accounts. An offer adds one unit that counts as pending or is refused, a
step changes the stage of one unit, and waiting changes only who waits. -/
theorem accounts_perform (around : Surroundings) (state : Queue × World) (move : Move)
    (h : Accounts around state.1) : Accounts around (perform around state move).1 := by
  obtain ⟨hsound, hgoing, order, hledger⟩ := h
  cases move with
  | offer u =>
    rw [perform]
    split
    · rename_i q hq
      exact ⟨hsound.enqueue _ u hq, hgoing.enqueue _ u hq, order, hledger.enqueue _ u hq⟩
    · exact ⟨hsound, hgoing, order, hledger⟩
  | step i =>
    rw [perform]
    cases hstep : state.1.step? around i state.2 with
    | none => exact ⟨hsound, hgoing, order, hledger⟩
    | some next =>
      obtain ⟨a, ha, hadvance⟩ := exists_advance hstep
      have hreached {part : WorkUnit.Part} (hstage : a.stage = .working part) :
          Reaches around a.workUnit part := hgoing a (List.mem_of_getElem? ha) part hstage
      exact ⟨hsound.advance ha hadvance,
        hgoing.advance ha hadvance .begun fun part next hstage hpart =>
          (hreached hstage).next hpart,
        hledger.advance ha hadvance fun part result hstage hpart =>
          ⟨part, _, result, _, hreached hstage, hpart, rfl⟩⟩
  | wait =>
    rw [perform]
    cases hwait : state.1.wait? with
    | none => exact ⟨hsound, hgoing, order, hledger⟩
    | some next =>
      obtain ⟨waiter, rfl⟩ := exists_waiter hwait
      exact ⟨hsound.wait hwait, hgoing, order, hledger.withWaiter waiter⟩
  | waitAgain =>
    rw [perform]
    split
    · exact ⟨⟨hsound.taken_le, hsound.pending_eq, by simp⟩, hgoing, order,
        hledger.withWaiter .away⟩
    · exact ⟨hsound, hgoing, order, hledger⟩
  | outside w => exact ⟨hsound, hgoing, order, hledger⟩

/-- A move leaves the number of places alone, and brings in no unit but the one it is about.
Which one that is depends only on whether the offer was accepted. -/
theorem workUnits_perform (around : Surroundings) (state : Queue × World) (move : Move) :
    (perform around state move).1.places = state.1.places ∧
      (perform around state move).1.workUnits =
        state.1.workUnits ++ (acceptedBy? state.2 move).toList := by
  cases move with
  | offer u =>
    simp only [perform, enqueue, acceptedBy?]
    cases state.2.session.cancelled with
    | true => simp
    | false => simp [workUnits]
  | step i =>
    rw [perform]
    cases hstep : state.1.step? around i state.2 with
    | none => simp [acceptedBy?]
    | some next =>
      obtain ⟨a, -, hadvance⟩ := exists_advance hstep
      simp [acceptedBy?, hadvance.workUnits_eq, hadvance.places_eq]
  | wait =>
    rw [perform]
    cases hwait : state.1.wait? with
    | none => simp [acceptedBy?]
    | some next =>
      obtain ⟨waiter, rfl⟩ := exists_waiter hwait
      simp [acceptedBy?, workUnits]
  | waitAgain =>
    rw [perform]
    split <;> simp [acceptedBy?, workUnits]
  | outside w => simp [perform, acceptedBy?]

theorem accounts_play (around : Surroundings) (state : Queue × World) (moves : List Move)
    (h : Accounts around state.1) :
    Accounts around (play around state moves).1 ∧
      (play around state moves).1.places = state.1.places ∧
      (play around state moves).1.workUnits = state.1.workUnits ++ accepted around state moves := by
  induction moves generalizing state with
  | nil => exact ⟨h, rfl, (List.append_nil _).symm⟩
  | cons move rest ih =>
    obtain ⟨haccounts, hplaces, hunits⟩ := ih _ (accounts_perform around state move h)
    obtain ⟨hsame, hadded⟩ := workUnits_perform around state move
    refine ⟨haccounts, hplaces.trans hsame, ?_⟩
    rw [play, List.foldl_cons, ← play, hunits, hadded, accepted, List.append_assoc]

theorem play_refused (around : Surroundings) (state : Queue × World) (moves more : List Move)
    (u : WorkUnit) (h : (play around state moves).2.session.cancelled = true) :
    play around state (moves ++ .offer u :: more) = play around state (moves ++ more) := by
  have hsame : perform around (play around state moves) (.offer u) = play around state moves := by
    simp [perform, enqueue, h]
  simp only [play, List.foldl_append, List.foldl_cons] at hsame ⊢
  rw [hsame]

theorem owing_of_returned (hq : q.Sound) (h : q.wait? = some q') (hback : q'.waiter = .returned) :
    q.owing = 0 := by
  rw [← hq.pending_eq]
  rw [wait?] at h
  split at h
  · cases h
    cases hback
  · cases h
    by_contra hpending
    simp [hpending] at hback
  · cases h
    cases hback
  · cases h
  · cases h

/-- Whatever happens, the accounts of a queue agree. No more units have a place than there are
places, and as many are pending as have yet to say that they no longer are. The units are those
that were accepted, and one that was refused might as well not have been offered. The outcomes
are those of different units, of all that have entered theirs; a unit enters it before it stops
counting as pending, so that who comes back from waiting finds one for each. Whoever has parked
without having been told will be, as some unit has yet to finish. -/
theorem play_keeps_accounts (around : Surroundings) (workers : Nat) (w : World)
    (moves : List Move) :
    let final := play around (make workers, w) moves
    let q := final.1
    q.taken ≤ max 1 workers ∧ q.pending = q.owing ∧
      q.workUnits = accepted around (make workers, w) moves ∧
      (∀ u more, final.2.session.cancelled = true →
        play around (make workers, w) (moves ++ .offer u :: more) =
          play around (make workers, w) (moves ++ more)) ∧
      (∃ order, Ledger (IsOutcome around) q order ∧
        (∀ i a, q.units[i]? = some a → a.stage.isPending = false → i ∈ order) ∧
        ∀ next, q.wait? = some next → next.waiter = .returned →
          order.Perm (List.range q.units.length)) ∧
      (q.waiter = .parked false → ∃ a ∈ q.units, a.stage ≠ .finished) := by
  have hstart : Accounts around (make workers) :=
    ⟨sound_make workers, going_make workers, [], ledger_make workers⟩
  obtain ⟨⟨hsound, -, order, hledger⟩, hplaces, hunits⟩ :=
    accounts_play around (make workers, w) moves hstart
  have hmost : (make workers).places = max 1 workers := Nat.max_comm workers 1
  refine ⟨?_, hsound.pending_eq, hunits, fun u more => play_refused around _ moves more u, ?_,
    hsound.awaited⟩
  · rw [← hmost, ← hplaces]
    exact hsound.taken_le
  · refine ⟨order, hledger, ?_, ?_⟩
    · intro i a ha hsettled
      exact (hledger.mem_iff i).mpr ⟨a, ha, a.stage.isRecorded_of_not_isPending hsettled⟩
    · intro next hwait hback
      exact hledger.perm_range (owing_of_returned hsound hwait hback)

/-- Whoever waits parks while a unit is under way, is told when it has finished, and is back after
another look. -/
example :
    let u : WorkUnit := ⟨Request.make (.movie 7) "en" "fr" false false none, "Film.en.srt",
      ⟨.movie, 7, "Film", "Film.mkv", []⟩, ⟨"", "m", ⟨0⟩, 1, .disabled⟩⟩
    let around : Surroundings :=
      ⟨fun _ s => (.ok [], s), fun _ => none, none, Files.Faults.none, "now"⟩
    let start := (make 0, World.start ⟨[]⟩ .empty false)
    let parked := play around start [.step 0, .offer u, .step 0, .wait, .wait, .wait]
    let told := play around parked (List.replicate 5 (.step 0))
    let back := play around told [.wait, .wait]
    parked.1.waiter = .parked false ∧ told.1.waiter = .parked true ∧ back.1.waiter = .returned := by
  decide +kernel

end Queue

end Subtitling.Work
