import Mathlib.Data.List.Induction
import Subtitling.Proofs.Service.Lines
import Subtitling.Service.Job

/-!
What a run of polls and timeouts makes of a job. The first event that settles the job decides: later
events change nothing, earlier polls leave no mark on the outcome, and only a poll that reports a
completed job together with a list of readable records gives lines. A second view keeps the job as
separate fields that each branch writes on its own; after any run it shows the same.
-/

namespace Subtitling.Service

open Subtitle (Line)

/-- The service cannot report that patience ended, which only the waiting side knows. -/
theorem Status.ofReport_ne_timedOut (text : Option String) : ofReport text ≠ .timedOut := by
  unfold ofReport
  split
  · simp
  · split_ifs <;> simp

theorem Poll.status_phase (poll : Poll) : poll.phase.status = Status.ofReport poll.status := by
  have hreport := Status.ofReport_ne_timedOut poll.status
  unfold Poll.phase
  cases h : Status.ofReport poll.status with
  | timedOut => exact absurd h hreport
  | queued => rfl
  | running => rfl
  | completed => rfl
  | failed => rfl
  | cancelled => rfl

namespace Job

@[simp] theorem status_new (id : String) : (new id).status = .queued := rfl

theorem isTerminal_new (id : String) : (new id).isTerminal = false := rfl

@[simp] theorem afterAll_nil (job : Job) : job.afterAll [] = job := rfl

@[simp] theorem afterAll_cons (job : Job) (e : Event) (events : List Event) :
    job.afterAll (e :: events) = (job.after e).afterAll events := rfl

theorem afterAll_append (job : Job) (first second : List Event) :
    job.afterAll (first ++ second) = (job.afterAll first).afterAll second :=
  List.foldl_append

theorem moved_of_terminal (job : Job) (poll : Poll) (h : job.isTerminal = true) :
    job.moved? poll = none := by
  simp only [moved?, h, if_true]

theorem apply_of_open (job : Job) (poll : Poll) (h : job.isTerminal = false) :
    job.apply poll = { job with
      phase := poll.phase
      percent := (poll.percent?.bind wholePercent?).getD job.percent
      note := poll.noteText?.getD job.note } := by
  simp [apply, moved?, h]

theorem expire_of_open (job : Job) (seconds : Nat) (h : job.isTerminal = false) :
    job.expire seconds = { job with phase := .timedOut seconds } := by
  simp [expire, h]

/-- Nothing moves a job that has settled. -/
theorem after_of_terminal (job : Job) (e : Event) (h : job.isTerminal = true) :
    job.after e = job := by
  cases e with
  | polled poll => simp [after, apply, moved_of_terminal job poll h]
  | expired seconds => simp [after, expire, h]

theorem afterAll_of_terminal (job : Job) (events : List Event) (h : job.isTerminal = true) :
    job.afterAll events = job := by
  induction events with
  | nil => rfl
  | cons e rest ih => rw [afterAll_cons, after_of_terminal job e h, ih]

theorem status_after_poll (job : Job) (poll : Poll) (h : job.isTerminal = false) :
    (job.apply poll).status = poll.phase.status := by
  rw [apply_of_open job poll h]
  rfl

theorem outcome_eq_none_iff (job : Job) :
    job.outcome? = none ↔ job.status = .queued ∨ job.status = .running := by
  cases hphase : job.phase with
  | completed delivery => cases delivery <;> simp [outcome?, status, hphase, Phase.status]
  | queued => simp [outcome?, status, hphase, Phase.status]
  | running => simp [outcome?, status, hphase, Phase.status]
  | failed reason => simp [outcome?, status, hphase, Phase.status]
  | cancelled => simp [outcome?, status, hphase, Phase.status]
  | timedOut seconds => simp [outcome?, status, hphase, Phase.status]

theorem isTerminal_eq_false_iff (job : Job) :
    job.isTerminal = false ↔ job.status = .queued ∨ job.status = .running := by
  cases hstatus : job.status <;> simp [isTerminal, hstatus, Status.isTerminal]

theorem outcome_isSome_iff (job : Job) : job.outcome?.isSome = job.isTerminal := by
  cases hterminal : job.isTerminal with
  | false =>
    have hstatus := (isTerminal_eq_false_iff job).mp hterminal
    rw [(outcome_eq_none_iff job).mpr hstatus]
    rfl
  | true =>
    cases houtcome : job.outcome? with
    | some outcome => rfl
    | none =>
      have hstatus := (outcome_eq_none_iff job).mp houtcome
      rw [(isTerminal_eq_false_iff job).mpr hstatus] at hterminal
      cases hterminal

/-- No job ends because its caller stopped waiting: that is for the caller to say. -/
theorem outcome_ne_cancelled (job : Job) : job.outcome? ≠ some (.error .cancelled) := by
  cases hphase : job.phase with
  | completed delivery => cases delivery <;> simp [outcome?, hphase]
  | queued => simp [outcome?, hphase]
  | running => simp [outcome?, hphase]
  | failed reason => simp [outcome?, hphase]
  | cancelled => simp [outcome?, hphase]
  | timedOut seconds => simp [outcome?, hphase]

/-- The outcome is a matter of the phase alone. -/
theorem outcome_congr {job other : Job} (h : job.phase = other.phase) :
    job.outcome? = other.outcome? := by
  simp only [outcome?, h]

theorem outcome_after_congr {job other : Job} (e : Event) (hjob : job.isTerminal = false)
    (hother : other.isTerminal = false) : (job.after e).outcome? = (other.after e).outcome? := by
  apply outcome_congr
  cases e with
  | polled poll => simp only [after, apply_of_open _ poll hjob, apply_of_open _ poll hother]
  | expired seconds =>
    simp only [after, expire_of_open _ seconds hjob, expire_of_open _ seconds hother]

/-- A job never has lines and a failure at once. -/
theorem result_or_error_eq_none (job : Job) : job.result? = none ∨ job.error? = none := by
  cases hphase : job.phase with
  | completed delivery => cases delivery <;> simp [result?, error?, hphase]
  | queued => simp [result?, hphase]
  | running => simp [result?, hphase]
  | failed reason => simp [result?, hphase]
  | cancelled => simp [result?, hphase]
  | timedOut seconds => simp [result?, hphase]

end Job

/-- A result is a delivery of lines just where it is a list that is not empty and each of its
records carries its line. One record that cannot be read spoils the whole delivery. -/
theorem Delivery.ofResult_eq_lines_iff (result : Option Json) (lines : List Line) :
    Delivery.ofResult result = .lines lines ↔
      ∃ records, result = some (.array records) ∧ records ≠ [] ∧
        List.Forall₂ Carries records lines := by
  constructor
  · intro h
    match result, h with
    | some value, h =>
      by_cases hnull : value = .null
      · subst hnull
        cases h
      · rw [ofResult.eq_3 value (by simpa using hnull)] at h
        cases hread : readLines value with
        | error e => rw [hread] at h; cases h
        | ok found =>
          rw [hread] at h
          cases found with
          | nil => cases h
          | cons line rest =>
            simp only [Delivery.lines.injEq] at h
            subst h
            obtain ⟨records, rfl, hrecords⟩ := (readLines_eq_ok_iff value _).mp hread
            refine ⟨records, rfl, ?_, hrecords⟩
            rintro rfl
            cases hrecords
  · rintro ⟨records, rfl, hne, hrecords⟩
    have hread := (readLines_eq_ok_iff (.array records) lines).mpr ⟨records, rfl, hrecords⟩
    cases hrecords with
    | nil => exact absurd rfl hne
    | cons _ _ => simp only [ofResult, hread]

/-- A poll that hands over lines: it reports a completed job, and its result is a list of readable
records, at least one, whose lines these are. -/
def Poll.Delivers (poll : Poll) (lines : List Line) : Prop :=
  Status.ofReport poll.status = .completed ∧
    ∃ records, poll.result = some (.array records) ∧ records ≠ [] ∧
      List.Forall₂ Carries records lines

theorem Poll.phase_eq_lines_iff (poll : Poll) (lines : List Line) :
    poll.phase = .completed (.lines lines) ↔ poll.Delivers lines := by
  rw [Poll.Delivers, ← Delivery.ofResult_eq_lines_iff, Poll.phase]
  cases Status.ofReport poll.status <;> simp

theorem Job.outcome_eq_ok_iff (job : Job) (lines : List Line) :
    job.outcome? = some (.ok lines) ↔ job.phase = .completed (.lines lines) := by
  cases hphase : job.phase with
  | completed delivery => cases delivery <;> simp [outcome?, hphase]
  | queued => simp [outcome?, hphase]
  | running => simp [outcome?, hphase]
  | failed reason => simp [outcome?, hphase]
  | cancelled => simp [outcome?, hphase]
  | timedOut seconds => simp [outcome?, hphase]

theorem Job.outcome_after_eq_ok_iff (job : Job) (e : Event) (lines : List Line)
    (h : job.isTerminal = false) :
    (job.after e).outcome? = some (.ok lines) ↔ ∃ poll, e = .polled poll ∧ poll.Delivers lines := by
  rw [outcome_eq_ok_iff]
  cases e with
  | polled poll => simp [after, apply_of_open job poll h, Poll.phase_eq_lines_iff]
  | expired seconds => simp [after, expire_of_open job seconds h]

/-- A job as separate fields, of which each event writes some and leaves the others as they are. -/
structure Fields where
  status : Status
  percent : Nat
  note : String
  result : Option (List Line)
  error : Option String
  /-- The seconds after which patience ended. -/
  patience : Option Nat

namespace Fields

def start : Fields := ⟨.queued, 0, "", none, none, none⟩

/-- Writes what a completed job came with; nothing is written for nothing. -/
def deliver (f : Fields) : Option Json → Fields
  | none => f
  | some .null => f
  | some value =>
    match readLines value with
    | .ok [] => f
    | .ok found => { f with result := some found }
    | .error e => { f with error := some e.message }

def apply (f : Fields) (poll : Poll) : Fields :=
  if f.status.isTerminal then f
  else
    let moved : Fields := { f with
      status := Status.ofReport poll.status
      percent := (poll.percent?.bind wholePercent?).getD f.percent
      note := poll.noteText?.getD f.note }
    match moved.status with
    | .completed => moved.deliver poll.result
    | .failed => { moved with error := some (poll.errorText?.getD "Unknown error") }
    | _ => moved

def expire (f : Fields) (seconds : Nat) : Fields :=
  if f.status.isTerminal then f else { f with status := .timedOut, patience := some seconds }

def after (f : Fields) : Job.Event → Fields
  | .polled poll => f.apply poll
  | .expired seconds => f.expire seconds

def afterAll (f : Fields) (events : List Job.Event) : Fields := events.foldl after f

/-- The outcome that the fields tell; what should be there and is not is made up for. -/
def outcome? (f : Fields) : Option (Except Error (List Line)) :=
  match f.status with
  | .queued => none
  | .running => none
  | .completed =>
    match f.result, f.error with
    | some lines, _ => some (.ok lines)
    | none, some error => some (.error (.malformed error))
    | none, none => some (.error (.jobFailed "Job completed but no result returned"))
  | .failed => some (.error (.jobFailed (f.error.getD "Unknown error")))
  | .cancelled => some (.error .jobCancelled)
  | .timedOut => some (.error (.timedOut (f.patience.getD 0)))

def ofJob (job : Job) : Fields where
  status := job.status
  percent := job.percent
  note := job.note
  result := job.result?
  error := job.error?
  patience := match job.phase with
    | .timedOut seconds => some seconds
    | _ => none

theorem outcome_ofJob (job : Job) : (ofJob job).outcome? = job.outcome? := by
  obtain ⟨id, phase, percent, note⟩ := job
  cases phase with
  | completed delivery => cases delivery <;> rfl
  | queued => rfl
  | running => rfl
  | failed reason => rfl
  | cancelled => rfl
  | timedOut seconds => rfl

theorem deliver_ofResult (id : String) (percent : Nat) (note : String) (result : Option Json) :
    deliver ⟨.completed, percent, note, none, none, none⟩ result =
      ofJob ⟨id, .completed (.ofResult result), percent, note⟩ := by
  match result with
  | none => rfl
  | some value =>
    by_cases hnull : value = .null
    · subst hnull
      rfl
    · rw [deliver.eq_3 _ value (by simpa using hnull),
        Delivery.ofResult.eq_3 value (by simpa using hnull)]
      cases readLines value with
      | error e => rfl
      | ok found => cases found <;> rfl

/-- The fields of an open job hold nothing that only a settled one has. -/
theorem ofJob_of_open (job : Job) (h : job.isTerminal = false) :
    ofJob job = ⟨job.status, job.percent, job.note, none, none, none⟩ := by
  obtain ⟨id, phase, percent, note⟩ := job
  cases phase with
  | queued => rfl
  | running => rfl
  | completed delivery => cases h
  | failed reason => cases h
  | cancelled => cases h
  | timedOut seconds => cases h

/-- A poll moves a job and its fields alike, so a job that is kept field by field never differs
from the one of the library. -/
theorem ofJob_apply (job : Job) (poll : Poll) :
    ofJob (job.apply poll) = (ofJob job).apply poll := by
  cases hterminal : job.isTerminal with
  | true =>
    have hstatus : (ofJob job).status.isTerminal = true := hterminal
    rw [show job.apply poll = job from Job.after_of_terminal job (.polled poll) hterminal, apply,
      if_pos hstatus]
  | false =>
    have hstatus : job.status.isTerminal = false := hterminal
    rw [Job.apply_of_open job poll hterminal, ofJob_of_open job hterminal, apply,
      if_neg (by simp [hstatus]), Poll.phase]
    cases hreport : Status.ofReport poll.status with
    | completed => exact (deliver_ofResult _ _ _ _).symm
    | queued => rfl
    | running => rfl
    | failed => rfl
    | cancelled => rfl
    | timedOut => exact absurd hreport (Status.ofReport_ne_timedOut poll.status)

theorem ofJob_expire (job : Job) (seconds : Nat) :
    ofJob (job.expire seconds) = (ofJob job).expire seconds := by
  cases hterminal : job.isTerminal with
  | true =>
    have hstatus : (ofJob job).status.isTerminal = true := hterminal
    rw [Job.expire, if_pos hterminal, expire, if_pos hstatus]
  | false =>
    have hstatus : job.status.isTerminal = false := hterminal
    rw [Job.expire_of_open job seconds hterminal, ofJob_of_open job hterminal, expire,
      if_neg (by simp [hstatus])]
    rfl

/-- Both views of a job move together. -/
theorem ofJob_afterAll (job : Job) (events : List Job.Event) :
    ofJob (job.afterAll events) = (ofJob job).afterAll events := by
  induction events generalizing job with
  | nil => rfl
  | cons e rest ih =>
    have hstep : ofJob (job.after e) = (ofJob job).after e := by
      cases e with
      | polled poll => exact ofJob_apply job poll
      | expired seconds => exact ofJob_expire job seconds
    rw [Job.afterAll_cons, ih (job.after e), hstep]
    rfl

end Fields

/-- The event that settles a job: all events before it leave the job open, and it does not. -/
structure Job.SettledBy (id : String) (before : List Event) (e : Event) : Prop where
  isOpen : ((new id).afterAll before).isTerminal = false
  settled : ((new id).afterAll (before ++ [e])).isTerminal = true

theorem Job.exists_settledBy (id : String) (events : List Event)
    (h : ((new id).afterAll events).isTerminal = true) :
    ∃ before e later, events = before ++ e :: later ∧ SettledBy id before e := by
  induction events using List.reverseRecOn with
  | nil => cases h
  | append_singleton before e ih =>
    cases hbefore : ((new id).afterAll before).isTerminal with
    | false => exact ⟨before, e, [], rfl, hbefore, h⟩
    | true =>
      obtain ⟨first, decisive, later, rfl, hsettled⟩ := ih hbefore
      exact ⟨first, decisive, later ++ [e], by simp, hsettled⟩

/-- A job settles at most once. A settled job has an event that settled it; nothing after that event
moves the job or changes anything about it, its outcome is the one a fresh job has after that event
alone, and it is a list of lines just when that event is a poll that hands these over. In every run
there is no outcome exactly while the job is queued or running, lines and a failure never stand side
by side, and a job that is kept field by field comes to the same fields and the same outcome. -/
theorem Job.settles_once (id : String) :
    (∀ events, ((new id).afterAll events).isTerminal = true →
      ∃ before e later, events = before ++ e :: later ∧ SettledBy id before e) ∧
    (∀ before e later, SettledBy id before e →
      let settled := (new id).afterAll (before ++ [e])
      (∀ poll, ((new id).afterAll (before ++ e :: later)).moved? poll = none) ∧
      (new id).afterAll (before ++ e :: later) = settled ∧
      (∀ fresh, settled.outcome? = ((new fresh).after e).outcome?) ∧
      ∀ lines, settled.outcome? = some (.ok lines) ↔
        ∃ poll, e = .polled poll ∧ poll.Delivers lines) ∧
    ∀ events,
      let job := (new id).afterAll events
      (job.outcome? = none ↔ job.status = .queued ∨ job.status = .running) ∧
      (job.result? = none ∨ job.error? = none) ∧
      Fields.ofJob job = Fields.start.afterAll events ∧
      (Fields.start.afterAll events).outcome? = job.outcome? := by
  refine ⟨fun events => exists_settledBy id events, ?_, ?_⟩
  · intro before e later ⟨hopen, hsettled⟩
    have hlater : (new id).afterAll (before ++ e :: later) = (new id).afterAll (before ++ [e]) := by
      rw [List.append_cons before e later, afterAll_append _ (before ++ [e]) later,
        afterAll_of_terminal _ later hsettled]
    have hlast : (new id).afterAll (before ++ [e]) = ((new id).afterAll before).after e :=
      afterAll_append _ before [e]
    refine ⟨fun poll => ?_, hlater, fun fresh => ?_, fun lines => ?_⟩
    · exact moved_of_terminal _ poll (hlater ▸ hsettled)
    · rw [hlast]
      exact outcome_after_congr e hopen (isTerminal_new fresh)
    · rw [hlast]
      exact outcome_after_eq_ok_iff _ e lines hopen
  · intro events
    have hfields : Fields.ofJob ((new id).afterAll events) = Fields.start.afterAll events :=
      Fields.ofJob_afterAll (new id) events
    refine ⟨outcome_eq_none_iff _, result_or_error_eq_none _, hfields, ?_⟩
    rw [← hfields]
    exact Fields.outcome_ofJob _

/-- A failure that is reported after the lines were delivered changes nothing. -/
theorem Job.late_failure_changes_nothing :
    let working : Event := .polled ⟨some "processing", some (Json.ofInt 40),
      some (.string "Batch 2/5"), none, none⟩
    let done : Event := .polled ⟨some " Completed", none, none,
      some (.array [.object [("line", .string "Salut"), ("position", Json.ofInt 0)]]), none⟩
    let failed : Event := .polled ⟨some "failed", none, none, none, some (.string "late")⟩
    SettledBy "j1" [working] done ∧
      ((new "j1").afterAll [working, done, failed, .expired 10]).outcome? =
        some (.ok [⟨0, "Salut"⟩]) := by
  intro working done failed
  have hsettled : SettledBy "j1" [working] done := ⟨by decide +kernel, by decide +kernel⟩
  obtain ⟨-, hlater, -, hlines⟩ :=
    (settles_once "j1").2.1 [working] done [failed, .expired 10] hsettled
  refine ⟨hsettled, ?_⟩
  rw [show [working, done, failed, .expired 10] =
    [working] ++ done :: [failed, .expired 10] from rfl, hlater]
  refine (hlines [⟨0, "Salut"⟩]).mpr ⟨_, rfl, by decide +kernel, _, rfl, by simp, ?_⟩
  exact .cons ⟨rfl, by decide, by decide, rfl⟩ .nil

end Subtitling.Service
