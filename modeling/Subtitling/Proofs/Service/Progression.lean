import Subtitling.Proofs.Service.Job

/-!
In which order a job goes through its statuses: queued, then running, then settled. A settled job
stays where it is, and no event takes a queued job back, but nothing keeps a service from
reporting a running job as queued or pending, and the job then follows the report. This is the
one way in which a job goes back.
-/

namespace Subtitling.Service

/-- How far a job with a status has come. -/
def Status.rank : Status → Nat
  | .queued => 0
  | .running => 1
  | .completed | .failed | .cancelled | .timedOut => 2

/-- A status on the way forward from another, or the same. -/
def Status.Precedes (s next : Status) : Prop := next = s ∨ s.rank < next.rank

instance (s next : Status) : Decidable (s.Precedes next) := inferInstanceAs (Decidable (_ ∨ _))

/-- A poll says of its job that it waits for its turn. -/
def Poll.SaysQueued (p : Poll) : Prop :=
  ∃ text, p.status = some text ∧
    (Text.lower (Text.trimmed text) = "queued" ∨ Text.lower (Text.trimmed text) = "pending")

theorem Status.ofReport_eq_queued_iff (p : Poll) : ofReport p.status = .queued ↔ p.SaysQueued := by
  rw [ofReport, Poll.SaysQueued]
  cases p.status with
  | none => simp
  | some text =>
    simp only [Option.map_some, Option.some.injEq, exists_eq_left', Bool.or_eq_true,
      decide_eq_true_eq]
    split
    · rename_i hqueued
      simpa using hqueued
    · rename_i hother
      split_ifs <;> simp [hother]

theorem Status.precedes_of_isTerminal (s next : Status) (h : s.isTerminal = true) :
    s.Precedes next ↔ next = s := by
  cases s <;> cases next <;> revert h <;> decide

theorem Status.precedes_of_running (next : Status) :
    Status.running.Precedes next ↔ next ≠ .queued := by
  cases next <;> decide

theorem Status.queued_precedes (next : Status) : Status.queued.Precedes next := by
  cases next <;> decide

namespace Job

/-- The statuses that a job goes through, from the one that it is in. -/
def statuses (job : Job) : List Event → List Status
  | [] => [job.status]
  | e :: rest => job.status :: (job.after e).statuses rest

/-- An event takes a job back. -/
def FallsBack (job : Job) (e : Event) : Prop :=
  job.status = .running ∧ ∃ poll, e = .polled poll ∧ poll.SaysQueued

/-- One event takes a job forward or leaves it where it is, unless it is a poll by which a
running job is queued. -/
theorem precedes_after_iff (job : Job) (e : Event) :
    job.status.Precedes (job.after e).status ↔ ¬ job.FallsBack e := by
  cases hterminal : job.isTerminal with
  | true =>
    have hrunning : job.status ≠ .running := by
      intro hrunning
      rw [isTerminal, hrunning] at hterminal
      cases hterminal
    simp [Status.precedes_of_isTerminal _ _ hterminal, after_of_terminal job e hterminal, FallsBack,
      hrunning]
  | false =>
    rcases (isTerminal_eq_false_iff job).mp hterminal with hstatus | hstatus
    · simp [hstatus, Status.queued_precedes, FallsBack]
    · rw [hstatus, Status.precedes_of_running, FallsBack]
      cases e with
      | expired seconds => simp [after, expire_of_open job seconds hterminal, status, Phase.status]
      | polled poll =>
        rw [after, status_after_poll job poll hterminal, poll.status_phase, Ne,
          Status.ofReport_eq_queued_iff]
        simp [hstatus]

/-- A job that goes back was running and is queued then. -/
theorem FallsBack.status_after {job : Job} {e : Event} (h : job.FallsBack e) :
    (job.after e).status = .queued := by
  obtain ⟨hrunning, poll, rfl, hqueued⟩ := h
  have hopen : job.isTerminal = false := (isTerminal_eq_false_iff job).mpr (.inr hrunning)
  rw [after, status_after_poll job poll hopen, poll.status_phase]
  exact (Status.ofReport_eq_queued_iff poll).mpr hqueued

theorem exists_statuses_eq (job : Job) (events : List Event) :
    ∃ rest, job.statuses events = job.status :: rest := by
  cases events with
  | nil => exact ⟨[], rfl⟩
  | cons e rest => exact ⟨_, rfl⟩

/-- What holds of each status and the next is what each event sees to. -/
theorem isChain_statuses_iff (R : Status → Status → Prop) (job : Job) (events : List Event) :
    (job.statuses events).IsChain R ↔ ∀ before e later, events = before ++ e :: later →
      R (job.afterAll before).status ((job.afterAll before).after e).status := by
  induction events generalizing job with
  | nil => simp [statuses]
  | cons e rest ih =>
    obtain ⟨more, hmore⟩ := exists_statuses_eq (job.after e) rest
    have hrest := ih (job.after e)
    rw [hmore] at hrest
    rw [statuses, hmore, List.isChain_cons_cons, hrest]
    constructor
    · rintro ⟨hfirst, hlater⟩ before next later hevents
      cases before with
      | nil =>
        obtain ⟨rfl, rfl⟩ := List.cons.inj hevents
        exact hfirst
      | cons first others =>
        obtain ⟨rfl, rfl⟩ := List.cons.inj hevents
        exact hlater others next later rfl
    · intro h
      refine ⟨h [] e rest rfl, fun before next later hevents => ?_⟩
      exact h (e :: before) next later (by rw [hevents, List.cons_append])

/-- A new job begins queued, and from then on each status is the one before or further on, unless
a running job is queued again. The statuses are in their order throughout just if no poll that
says that the job is queued or pending comes while it is running. -/
theorem goes_back_only_when_queued_again (id : String) (events : List Event) :
    (∃ rest, (new id).statuses events = .queued :: rest) ∧
    ((new id).statuses events).IsChain
      (fun s next => s.Precedes next ∨ s = .running ∧ next = .queued) ∧
    (((new id).statuses events).IsChain Status.Precedes ↔
      ¬ ∃ before poll later, events = before ++ .polled poll :: later ∧
        ((new id).afterAll before).status = .running ∧ poll.SaysQueued) := by
  refine ⟨exists_statuses_eq (new id) events, ?_, ?_⟩
  · rw [isChain_statuses_iff]
    intro before e later _
    by_cases hback : ((new id).afterAll before).FallsBack e
    · exact .inr ⟨hback.1, hback.status_after⟩
    · exact .inl ((precedes_after_iff _ e).mpr hback)
  · simp only [isChain_statuses_iff, precedes_after_iff]
    constructor
    · rintro h ⟨before, poll, later, hevents, hrunning, hqueued⟩
      exact h before (.polled poll) later hevents ⟨hrunning, poll, rfl, hqueued⟩
    · rintro h before e later hevents ⟨hrunning, poll, rfl, hqueued⟩
      exact h ⟨before, poll, later, hevents, hrunning, hqueued⟩

/-- A running job that is reported to be queued goes back. -/
theorem running_job_is_queued_again :
    (new "j").statuses [.polled ⟨some "processing", some (Json.ofInt 10), none, none, none⟩,
        .polled ⟨some "queued", none, none, none, none⟩] = [.queued, .running, .queued] ∧
      ¬ [Status.queued, .running, .queued].IsChain Status.Precedes := by
  decide +kernel

end Job

end Subtitling.Service
