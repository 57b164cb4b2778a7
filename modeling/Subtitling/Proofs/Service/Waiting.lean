import Mathlib.Algebra.Order.Floor.Div
import Subtitling.Proofs.Service.Addresses
import Subtitling.Proofs.Service.Job

/-!
Waiting for a job. A wait is told by the answers that came of its polls, one after the other: each
is what the service answers to that many polls, sent to the address of the job at a time that only
the polls and pauses before decide, and only those answers that could be read ever move the job or
show anything. The wait ends in one of three ways, with the outcome of the first readable answer
that tells of an end, with the end of patience, or because the caller cancelled, and only then is
the service asked to drop the job. The turns that bound the loop never run out.
-/

namespace Subtitling.Service

open Subtitle (Line)

def Poll.isTerminal (poll : Poll) : Bool := (Status.ofReport poll.status).isTerminal

theorem Job.isTerminal_apply (job : Job) (poll : Poll) (h : job.isTerminal = false) :
    (job.apply poll).isTerminal = poll.isTerminal := by
  rw [isTerminal, status_after_poll job poll h, poll.status_phase, Poll.isTerminal]

theorem Job.id_after (job : Job) (e : Event) : (job.after e).id = job.id := by
  cases hterminal : job.isTerminal with
  | true => rw [after_of_terminal job e hterminal]
  | false =>
    cases e with
    | polled poll => simp only [after, apply_of_open job poll hterminal]
    | expired seconds => simp only [after, expire_of_open job seconds hterminal]

theorem Job.id_afterAll (job : Job) (events : List Event) : (job.afterAll events).id = job.id := by
  induction events generalizing job with
  | nil => rfl
  | cons e rest ih => rw [afterAll_cons, ih (job.after e), id_after]

def Job.movedBy (job : Job) (polls : List Poll) : Job := job.afterAll (polls.map .polled)

theorem Job.movedBy_append (job : Job) (first second : List Poll) :
    job.movedBy (first ++ second) = (job.movedBy first).movedBy second := by
  simp only [movedBy, List.map_append, afterAll_append]

/-- A job is open as long as no poll tells of its end. -/
theorem Job.isTerminal_movedBy (job : Job) (polls : List Poll) (h : job.isTerminal = false)
    (hpolls : ∀ poll ∈ polls, poll.isTerminal = false) :
    (job.movedBy polls).isTerminal = false := by
  induction polls generalizing job with
  | nil => exact h
  | cons poll rest ih =>
    apply ih (job.apply poll)
    · rw [isTerminal_apply job poll h]
      exact hpolls poll (by simp)
    · intro later hlater
      exact hpolls later (by simp [hlater])

/-- No timer goes off before the time that it was set to. -/
def Link.HoldsPauses (link : Link) (d : Duration) : Prop :=
  ∀ sent, d.nanoseconds ≤ (link.pauseTime sent d).nanoseconds

namespace Client

/-- The requests that name a job with some method: one, to the address behind its id, or none where
the client has no address for the job. -/
def jobCalls (c : Client) (method : Method) (id : String) : List Call :=
  c.callsOf method ("/api/v1/jobs/" ++ id) none

def pollCalls (c : Client) (id : String) (count : Nat) : List Call :=
  (List.replicate count (c.jobCalls .get id)).flatten

/-- What comes of asking for a job when some requests were sent before; nothing comes of it when the
caller cancels meanwhile. -/
def pollAnswer? (c : Client) (link : Link) (id : String) (sent : List Call) :
    Option (Except Error Poll) :=
  (c.answer? link c.timeouts.poll .get ("/api/v1/jobs/" ++ id) none sent).map (·.bind readPoll)

def pollTime (c : Client) (link : Link) (id : String) (sent : List Call) : Nat :=
  c.timeTaken link c.timeouts.poll .get ("/api/v1/jobs/" ++ id) none sent

/-- Pauses between polls take time, and no less of it than they should. -/
def Paces (c : Client) (link : Link) : Prop :=
  0 < c.interval.nanoseconds ∧ link.HoldsPauses c.interval

def readable (answers : List (Except Error Poll)) : List Poll := answers.filterMap Except.toOption

/-- What users are shown while polls move a job: its entry once for each of them. -/
def shownBy (progressId : String) : Job → List Poll → List Progress.Event
  | _, [] => []
  | job, poll :: rest =>
    let moved := job.apply poll
    .shown progressId progressHeader moved.note moved.percent 100 :: shownBy progressId moved rest

theorem pollCalls_succ (c : Client) (id : String) (count : Nat) :
    c.pollCalls id (count + 1) = c.pollCalls id count ++ c.jobCalls .get id := by
  simp only [pollCalls, List.replicate_succ', List.flatten_append, List.flatten_singleton]

theorem readable_append (first second : List (Except Error Poll)) :
    readable (first ++ second) = readable first ++ readable second :=
  List.filterMap_append

theorem readable_concat_error (answers : List (Except Error Poll)) (e : Error) :
    readable (answers ++ [.error e]) = readable answers := by
  rw [readable_append]
  exact List.append_nil _

theorem readable_concat_ok (answers : List (Except Error Poll)) (poll : Poll) :
    readable (answers ++ [.ok poll]) = readable answers ++ [poll] := by
  rw [readable_append]
  rfl

theorem shownBy_append (progressId : String) (job : Job) (first second : List Poll) :
    shownBy progressId job (first ++ second) =
      shownBy progressId job first ++ shownBy progressId (job.movedBy first) second := by
  induction first generalizing job with
  | nil => rfl
  | cons poll rest ih =>
    simp only [List.cons_append, shownBy, ih (job.apply poll)]
    rfl

/-- Users see the entry of a job as often as an answer could be read. -/
theorem updates_shownBy (progressId : String) (job : Job) (polls : List Poll) (s t : Session)
    (h : t.events = s.events ++ shownBy progressId job polls) :
    t.updates = s.updates + polls.length := by
  have hcount : { s with events := shownBy progressId job polls }.updates = polls.length := by
    clear h
    induction polls generalizing job with
    | nil => rfl
    | cons poll rest ih =>
      have hrest := ih (job.apply poll)
      simp only [Session.updates] at hrest ⊢
      rw [shownBy, List.countP_cons, hrest]
      rfl
  simp only [Session.updates] at hcount ⊢
  rw [h, List.countP_append, hcount]

section
variable (c : Client) (link : Link) (id : String) (s : Session)

theorem jobPath_eq : jobPath id = "/api/v1/jobs/" ++ id := by
  have hfront : jobsPath ++ "/" = "/api/v1/jobs/" := by decide
  rw [jobPath, hfront]

theorem pollOnce_snd : (c.pollOnce link id s).2 =
    (c.requestUnlessCancelled link c.timeouts.poll .get ("/api/v1/jobs/" ++ id) none s).2 := by
  simp only [pollOnce, jobPath_eq]
  split <;> rename_i h <;> rw [h]

theorem pollOnce_fst : (c.pollOnce link id s).1 = c.pollAnswer? link id s.calls := by
  rw [pollAnswer?, ← requestUnlessCancelled_fst]
  simp only [pollOnce, jobPath_eq]
  split <;> rename_i h <;> rw [h] <;> rfl

theorem calls_pollOnce :
    (c.pollOnce link id s).2.calls = s.calls ++ c.jobCalls .get id := by
  rw [pollOnce_snd, calls_requestUnlessCancelled, jobCalls]

theorem events_pollOnce : (c.pollOnce link id s).2.events = s.events := by
  rw [pollOnce_snd, events_requestUnlessCancelled]

/-- A poll that has an answer was not cut short: it took its time and cancelled nothing. -/
theorem pollOnce_of_some (answer : Except Error Poll) (h : (c.pollOnce link id s).1 = some answer) :
    (c.pollOnce link id s).2.clock.nanoseconds =
        s.clock.nanoseconds + c.pollTime link id s.calls ∧
      (c.pollOnce link id s).2.cancelled = s.cancelled := by
  rw [pollOnce_fst, pollAnswer?, Option.map_eq_some_iff] at h
  obtain ⟨reply, hreply, -⟩ := h
  rw [← requestUnlessCancelled_fst] at hreply
  rw [pollOnce_snd]
  exact ⟨c.clock_requestUnlessCancelled_of_some link _ _ _ _ s reply hreply,
    c.cancelled_requestUnlessCancelled_of_some link _ _ _ _ s reply hreply⟩

theorem calls_abandon (progressId : String) :
    (c.abandon link id progressId s).2.calls = s.calls ++ c.jobCalls .delete id := by
  simp only [abandon, cancelJob, inspectJob, inspect_snd, calls_request, Session.calls_hideEntry,
    jobCalls, jobPath_eq]

theorem events_abandon (progressId : String) :
    (c.abandon link id progressId s).2.events = s.events ++ [.hidden progressId] := by
  simp only [abandon, cancelJob, inspectJob, inspect_snd, events_request, Session.events_hideEntry]

end

section
variable (c : Client) (link : Link) (progressId id : String) (start : Session)

def sentAfter (count : Nat) : List Call := start.calls ++ c.pollCalls id count

/-- The time at which a wait looks at the clock after a number of polls, each of which took its time
and had a pause behind it. -/
def lookTime : Nat → Nat
  | 0 => start.clock.nanoseconds
  | count + 1 => lookTime count + c.pollTime link id (sentAfter c id start count) +
      (link.pauseTime (sentAfter c id start (count + 1)) c.interval).nanoseconds

def answerTime (count : Nat) : Nat :=
  lookTime c link id start count + c.pollTime link id (sentAfter c id start count)

/-- What came of the polls so far, and the job and the session that this has led to. Failed polls
are among the answers, but neither the job nor what users are shown knows of them. No poll was sent
when patience had ended. -/
structure Heard (answers : List (Except Error Poll)) (job : Job) (s : Session) : Prop where
  moved : job = (Job.new id).movedBy (readable answers)
  sent : s.calls = sentAfter c id start answers.length
  shown : s.events = start.events ++ shownBy progressId (Job.new id) (readable answers)
  answered : ∀ k (h : k < answers.length),
    c.pollAnswer? link id (sentAfter c id start k) = some answers[k]
  punctual : ∀ k < answers.length,
    lookTime c link id start k - start.clock.nanoseconds < c.maxWait.nanoseconds

/-- The wait is about to take another turn. -/
structure Waiting (answers : List (Except Error Poll)) (job : Job) (s : Session) : Prop extends
    Heard c link progressId id start answers job s where
  unsettled : ∀ poll ∈ readable answers, poll.isTerminal = false
  clock : s.clock.nanoseconds = lookTime c link id start answers.length
  patient : s.cancelled = true → start.cancelled = true ∧ answers = []

/-- The caller cancels when no poll is under way: before the wait, while it looks at the clock, on
seeing the entry of a job, or in the pause behind a poll. -/
inductive CancelledBetween : List (Except Error Poll) → Prop
  | before (h : start.cancelled = true) : CancelledBetween []
  | atLook (answers : List (Except Error Poll))
      (h : link.cancelsAtLook (sentAfter c id start answers.length)
        ⟨lookTime c link id start answers.length⟩ = true) :
      CancelledBetween answers
  | atUpdate (earlier : List (Except Error Poll)) (poll : Poll)
      (h : link.cancelsAtUpdate (start.updates + (readable earlier).length + 1) = true) :
      CancelledBetween (earlier ++ [.ok poll])
  | inPause (earlier : List (Except Error Poll)) (last : Except Error Poll)
      (h : link.cancelsInPause (sentAfter c id start (earlier.length + 1))
        ⟨answerTime c link id start earlier.length⟩ = true) :
      CancelledBetween (earlier ++ [last])

/-- How a wait ends after some answers came of its polls and so many polls were started. -/
inductive Ends : List (Except Error Poll) → Nat → Except Error (List Line) → Session → Prop
  /-- The last answer is the first to tell of an end. Nothing is sent after it, and the result is
  the outcome that it gives a fresh job. -/
  | settled (earlier : List (Except Error Poll)) (last : Poll) (result : Except Error (List Line))
      (t : Session) (unsettled : ∀ poll ∈ readable earlier, poll.isTerminal = false)
      (terminal : last.isTerminal = true)
      (outcome : ((Job.new id).apply last).outcome? = some result)
      (own : result ≠ .error .cancelled)
      (sent : t.calls = sentAfter c id start (earlier.length + 1)) :
      Ends (earlier ++ [.ok last]) (earlier.length + 1) result t
  /-- No answer told of an end before patience ended, which it does not before the first poll unless
  there is none at all. -/
  | expired (answers : List (Except Error Poll)) (t : Session)
      (unsettled : ∀ poll ∈ readable answers, poll.isTerminal = false)
      (asked : answers = [] → c.maxWait.nanoseconds = 0)
      (late : c.Paces link → c.maxWait.nanoseconds ≤
        lookTime c link id start answers.length - start.clock.nanoseconds)
      (sent : t.calls = sentAfter c id start answers.length) :
      Ends answers answers.length (.error (.timedOut c.maxWait.seconds)) t
  /-- The caller cancelled between two polls, and the job was dropped. -/
  | calledOff (answers : List (Except Error Poll)) (t : Session)
      (unsettled : ∀ poll ∈ readable answers, poll.isTerminal = false)
      (cancelled : CancelledBetween c link id start answers)
      (sent : t.calls = sentAfter c id start answers.length ++ c.jobCalls .delete id) :
      Ends answers answers.length (.error .cancelled) t
  /-- The caller cancelled while a poll was under way, and the job was dropped. -/
  | cutShort (answers : List (Except Error Poll)) (t : Session)
      (unsettled : ∀ poll ∈ readable answers, poll.isTerminal = false)
      (cancelled : c.pollAnswer? link id (sentAfter c id start answers.length) = none)
      (sent : t.calls = sentAfter c id start (answers.length + 1) ++ c.jobCalls .delete id) :
      Ends answers (answers.length + 1) (.error .cancelled) t

/-- A wait that is over. Every poll of it was started before patience had ended. -/
structure Told (answers : List (Except Error Poll)) (started : Nat)
    (ending : Except Error (List Line) × Session) : Prop where
  answered : ∀ k (h : k < answers.length),
    c.pollAnswer? link id (sentAfter c id start k) = some answers[k]
  punctual : ∀ k < started,
    lookTime c link id start k - start.clock.nanoseconds < c.maxWait.nanoseconds
  shown : ∃ messages : List String, ending.2.events = start.events ++
    shownBy progressId (Job.new id) (readable answers) ++
      .hidden progressId :: messages.map .message
  ends : Ends c link id start answers started ending.1 ending.2

/-- Everything that a turn can come to that is taken after a number of polls: the wait is over, or
another turn follows after one poll more. -/
inductive Advances (count : Nat) : Turn → Prop
  | ended (answers : List (Except Error Poll)) (started : Nat)
      (ending : Except Error (List Line) × Session)
      (told : Told c link progressId id start answers started ending) :
      Advances count (.over ending)
  | again (answers : List (Except Error Poll)) (job : Job) (s : Session)
      (waiting : Waiting c link progressId id start answers job s)
      (more : answers.length = count + 1) :
      Advances count (.again job s)

variable {c link progressId id start} {answers : List (Except Error Poll)} {job : Job} {s : Session}

theorem sentAfter_succ (count : Nat) :
    sentAfter c id start count ++ c.jobCalls .get id = sentAfter c id start (count + 1) := by
  simp only [sentAfter, pollCalls_succ, List.append_assoc]

/-- As many intervals have passed as there were polls. -/
theorem lookTime_ge (hpaces : c.Paces link) (count : Nat) :
    start.clock.nanoseconds + count * c.interval.nanoseconds ≤ lookTime c link id start count := by
  induction count with
  | zero => simp [lookTime]
  | succ count ih =>
    have hheld := hpaces.2 (sentAfter c id start (count + 1))
    rw [lookTime, Nat.succ_mul]
    omega

/-- The last poll starts before patience ends, so that no more polls are started than intervals fit
into the longest wait, the last one being begun only. -/
theorem Told.few {started : Nat} {ending : Except Error (List Line) × Session}
    (h : Told c link progressId id start answers started ending) (hpaces : c.Paces link) :
    started ≤ c.maxWait.nanoseconds ⌈/⌉ c.interval.nanoseconds := by
  cases started with
  | zero => exact Nat.zero_le _
  | succ earlier =>
    have hlook : start.clock.nanoseconds + earlier * c.interval.nanoseconds ≤
        lookTime c link id start earlier := lookTime_ge hpaces earlier
    have hearly := h.punctual earlier (Nat.lt_succ_self earlier)
    have hshort : c.interval.nanoseconds * earlier < c.maxWait.nanoseconds := by
      rw [Nat.mul_comm]
      omega
    rw [Nat.succ_le_iff, ← Nat.not_le, ceilDiv_le_iff_le_mul hpaces.1]
    omega

/-- Without a poll a wait ends only where there is no patience at all or the caller has
cancelled. -/
theorem Ends.unasked {started : Nat} {result : Except Error (List Line)} {t : Session}
    (h : Ends c link id start answers started result t) (hstarted : started = 0) :
    c.maxWait.nanoseconds = 0 ∨ CancelledBetween c link id start [] := by
  cases h with
  | settled earlier last result t unsettled terminal outcome own sent => cases hstarted
  | expired answers t unsettled asked late sent =>
    exact .inl (asked (List.length_eq_zero_iff.mp hstarted))
  | calledOff answers t unsettled cancelled sent =>
    obtain rfl := List.length_eq_zero_iff.mp hstarted
    exact .inr cancelled
  | cutShort answers t unsettled cancelled sent => cases hstarted

theorem Heard.id_eq (h : Heard c link progressId id start answers job s) : job.id = id := by
  rw [h.moved, Job.movedBy, Job.id_afterAll]
  rfl

theorem Waiting.isOpen (h : Waiting c link progressId id start answers job s) :
    job.isTerminal = false := by
  rw [h.moved]
  exact Job.isTerminal_movedBy _ _ (Job.isTerminal_new id) h.unsettled

/-- A turn that finds patience left may start one poll more. -/
theorem Waiting.punctual_succ (h : Waiting c link progressId id start answers job s)
    (hover : c.isOver start.clock s = false) : ∀ k < answers.length + 1,
      lookTime c link id start k - start.clock.nanoseconds < c.maxWait.nanoseconds := by
  intro k hk
  rcases Nat.lt_succ_iff_lt_or_eq.mp hk with hearlier | rfl
  · exact h.punctual k hearlier
  · rw [← h.clock]
    simpa [isOver] using hover

theorem Heard.answered_append (h : Heard c link progressId id start answers job s)
    (answer : Except Error Poll)
    (hanswer : c.pollAnswer? link id (sentAfter c id start answers.length) = some answer) :
    ∀ k (hk : k < (answers ++ [answer]).length),
      c.pollAnswer? link id (sentAfter c id start k) = some (answers ++ [answer])[k] := by
  intro k hk
  by_cases hearlier : k < answers.length
  · rw [List.getElem_append_left hearlier]
    exact h.answered k hearlier
  · have hlast : k = answers.length := by
      simp only [List.length_append, List.length_singleton] at hk
      omega
    subst hlast
    simpa using hanswer

structure Polled (c : Client) (link : Link) (id : String) (start : Session) (count : Nat)
    (answer : Except Error Poll) (s t : Session) : Prop where
  answered : c.pollAnswer? link id (sentAfter c id start count) = some answer
  sent : t.calls = sentAfter c id start (count + 1)
  events : t.events = s.events
  clock : t.clock.nanoseconds = answerTime c link id start count
  cancelled : t.cancelled = (s.look link).cancelled

theorem Waiting.polled (h : Waiting c link progressId id start answers job s)
    (answer : Except Error Poll) (t : Session)
    (hpoll : c.pollOnce link id (s.look link) = (some answer, t)) :
    Polled c link id start answers.length answer s t := by
  have hfst : (c.pollOnce link id (s.look link)).1 = some answer := by rw [hpoll]
  have hcalls := c.calls_pollOnce link id (s.look link)
  have hevents := c.events_pollOnce link id (s.look link)
  obtain ⟨hclock, hcancelled⟩ := c.pollOnce_of_some link id (s.look link) answer hfst
  rw [hpoll] at hcalls hevents hclock hcancelled
  rw [Session.calls_look, h.sent] at hcalls hclock
  rw [pollOnce_fst, Session.calls_look, h.sent] at hfst
  rw [Session.clock_look, h.clock] at hclock
  exact ⟨hfst, hcalls.trans (sentAfter_succ _), hevents, hclock, hcancelled⟩

/-- A failed poll is one more answer and nothing else. -/
theorem Waiting.heard_failure (h : Waiting c link progressId id start answers job s)
    (hover : c.isOver start.clock s = false) (e : Error) (t : Session)
    (hpolled : Polled c link id start answers.length (.error e) s t) :
    Heard c link progressId id start (answers ++ [.error e]) job t := by
  refine ⟨?_, ?_, ?_, h.answered_append _ hpolled.answered, ?_⟩
  · rw [readable_concat_error, h.moved]
  · simpa using hpolled.sent
  · rw [hpolled.events, h.shown, readable_concat_error]
  · simpa using h.punctual_succ hover

/-- An answer that can be read moves the job and is shown once. -/
theorem Waiting.heard_poll (h : Waiting c link progressId id start answers job s)
    (hover : c.isOver start.clock s = false) (poll : Poll) (t : Session)
    (hpolled : Polled c link id start answers.length (.ok poll) s t) :
    Heard c link progressId id start (answers ++ [.ok poll]) (job.apply poll)
      (showJob link progressId (job.apply poll) t) := by
  have hmoved : (Job.new id).movedBy (readable answers ++ [poll]) = job.apply poll := by
    rw [Job.movedBy_append, ← h.moved]
    rfl
  refine ⟨?_, ?_, ?_, h.answered_append _ hpolled.answered, ?_⟩
  · rw [readable_concat_ok, hmoved]
  · simpa [showJob] using hpolled.sent
  · rw [showJob, Session.events_showEntry, hpolled.events, h.shown, readable_concat_ok,
      shownBy_append, ← h.moved, ← List.append_assoc]
    rfl
  · simpa using h.punctual_succ hover

theorem Heard.abandoned (h : Heard c link progressId id start answers job s)
    (hunsettled : ∀ poll ∈ readable answers, poll.isTerminal = false)
    (hcancelled : CancelledBetween c link id start answers) :
    Told c link progressId id start answers answers.length
      (c.abandon link job.id progressId s) := by
  have hcalls := c.calls_abandon link job.id s progressId
  have hevents := c.events_abandon link job.id s progressId
  rw [h.id_eq] at hcalls hevents ⊢
  refine ⟨h.answered, h.punctual, ⟨[], ?_⟩, .calledOff answers _ hunsettled hcancelled ?_⟩
  · rw [hevents, h.shown]
    rfl
  · rw [hcalls, h.sent]

/-- The caller who cancels while a poll is under way still has the job dropped. -/
theorem Waiting.cut_short (h : Waiting c link progressId id start answers job s)
    (hover : c.isOver start.clock s = false) (t : Session)
    (hpoll : c.pollOnce link id (s.look link) = (none, t)) :
    Told c link progressId id start answers (answers.length + 1)
      (c.abandon link job.id progressId t) := by
  have hfst : (c.pollOnce link id (s.look link)).1 = none := by rw [hpoll]
  have hpollCalls := c.calls_pollOnce link id (s.look link)
  have hpollEvents := c.events_pollOnce link id (s.look link)
  rw [hpoll] at hpollCalls hpollEvents
  have hcalls := c.calls_abandon link job.id t progressId
  have hevents := c.events_abandon link job.id t progressId
  rw [h.id_eq] at hcalls hevents ⊢
  rw [pollOnce_fst, Session.calls_look, h.sent] at hfst
  refine ⟨h.answered, h.punctual_succ hover, ⟨[], ?_⟩, .cutShort answers _ h.unsettled hfst ?_⟩
  · rw [hevents, hpollEvents, Session.events_look, h.shown]
    rfl
  · rw [hcalls, hpollCalls, Session.calls_look, h.sent, sentAfter_succ]

/-- A session in which a turn ended without an outcome: it goes on after a pause, unless the caller
cancels. -/
theorem Heard.carry_on {earlier : List (Except Error Poll)} {last : Except Error Poll}
    (h : Heard c link progressId id start (earlier ++ [last]) job s)
    (hunsettled : ∀ poll ∈ readable (earlier ++ [last]), poll.isTerminal = false)
    (hclock : s.clock.nanoseconds = answerTime c link id start earlier.length)
    (hcancelled : s.cancelled = true → CancelledBetween c link id start (earlier ++ [last])) :
    Advances c link progressId id start earlier.length (c.carryOn link progressId job s) := by
  cases hs : s.cancelled with
  | true =>
    have hturn : c.carryOn link progressId job s = .over (c.abandon link job.id progressId s) := by
      simp only [carryOn, hs, if_true]
    rw [hturn]
    exact .ended _ _ _ (h.abandoned hunsettled (hcancelled hs))
  | false =>
    have hpaused : Heard c link progressId id start (earlier ++ [last]) job
        (s.pause link c.interval) :=
      ⟨h.moved, by rw [Session.calls_pause, h.sent], by rw [Session.events_pause, h.shown],
        h.answered, h.punctual⟩
    have hsent := h.sent
    have hflag := s.cancelled_pause link c.interval
    rw [List.length_append, List.length_singleton] at hsent
    rw [hs, Bool.false_or] at hflag
    cases hcancels : link.cancelsInPause s.calls s.clock with
    | true =>
      have hturn : c.carryOn link progressId job s =
          .over (c.abandon link job.id progressId (s.pause link c.interval)) := by
        simp only [carryOn, hs, hflag, hcancels, Bool.false_eq_true, if_false, if_true]
      rw [hsent, show s.clock = ⟨answerTime c link id start earlier.length⟩ from
        congrArg Duration.mk hclock] at hcancels
      rw [hturn]
      exact .ended _ _ _ (hpaused.abandoned hunsettled (.inPause earlier last hcancels))
    | false =>
      have hturn : c.carryOn link progressId job s = .again job (s.pause link c.interval) := by
        simp only [carryOn, hs, hflag, hcancels, Bool.false_eq_true, if_false]
      have hlook := s.clock_pause link c.interval hcancels
      rw [hclock, hsent] at hlook
      rw [hturn]
      refine .again _ _ _ ⟨hpaused, hunsettled, ?_, ?_⟩ (by simp)
      · rw [hlook, List.length_append, List.length_singleton, lookTime, answerTime]
      · simp [hflag, hcancels]

theorem Heard.looked (h : Heard c link progressId id start answers job s) :
    Heard c link progressId id start answers job (s.look link) :=
  ⟨h.moved, h.sent, h.shown, h.answered, h.punctual⟩

theorem Heard.timed_out (h : Heard c link progressId id start answers job s)
    (hunsettled : ∀ poll ∈ readable answers, poll.isTerminal = false)
    (hasked : answers = [] → c.maxWait.nanoseconds = 0)
    (hlate : c.Paces link → c.maxWait.nanoseconds ≤
      lookTime c link id start answers.length - start.clock.nanoseconds) :
    Told c link progressId id start answers answers.length (c.timeOut progressId s) := by
  let told := "Translation timed out after " ++ toString (c.maxWait.seconds / 60) ++ " minutes"
  refine ⟨h.answered, h.punctual, ⟨[told], ?_⟩, .expired answers _ hunsettled hasked hlate h.sent⟩
  rw [timeOut, Session.events_message, Session.events_hideEntry, h.shown]
  simp only [List.append_assoc, List.singleton_append, List.map_cons, List.map_nil, told]

/-- An answer that settles the job ends the wait with the outcome that it gives a fresh job, also
when the caller cancels on seeing it. -/
theorem Waiting.reported (h : Waiting c link progressId id start answers job s) (poll : Poll)
    (t : Session) (outcome : Except Error (List Line))
    (hheard : Heard c link progressId id start (answers ++ [.ok poll]) (job.apply poll) t)
    (houtcome : (job.apply poll).outcome? = some outcome) :
    Told c link progressId id start (answers ++ [.ok poll]) (answers.length + 1)
      (report progressId outcome t) := by
  have hterminal : poll.isTerminal = true := by
    rw [← Job.isTerminal_apply job poll h.isOpen, ← Job.outcome_isSome_iff, houtcome]
    rfl
  have hfresh : ((Job.new id).apply poll).outcome? = some outcome := by
    rw [← houtcome]
    exact Job.outcome_after_congr (.polled poll) (Job.isTerminal_new id) h.isOpen
  have hown : outcome ≠ .error .cancelled := by
    rintro rfl
    exact Job.outcome_ne_cancelled _ houtcome
  have hpunctual := hheard.punctual
  have hsent := hheard.sent
  rw [List.length_append, List.length_singleton] at hpunctual hsent
  have hreport : (report progressId outcome t).1 = outcome ∧
      (report progressId outcome t).2.calls = t.calls ∧
      ∃ messages : List String, (report progressId outcome t).2.events =
        t.events ++ .hidden progressId :: messages.map .message := by
    simp only [report]
    split
    · rename_i reason
      exact ⟨rfl, rfl, ["Translation failed: " ++ reason], by simp⟩
    · exact ⟨rfl, rfl, [], rfl⟩
  obtain ⟨hresult, hcalls, messages, hevents⟩ := hreport
  refine ⟨hheard.answered, hpunctual, ⟨messages, by rw [hevents, hheard.shown]⟩, ?_⟩
  rw [hresult]
  exact .settled answers poll outcome _ h.unsettled hterminal hfresh hown (hcalls.trans hsent)

theorem Waiting.advances_failure (h : Waiting c link progressId id start answers job s)
    (hover : c.isOver start.clock s = false) (e : Error) (t : Session)
    (hpolled : Polled c link id start answers.length (.error e) s t)
    (hopen : t.cancelled = false) :
    Advances c link progressId id start answers.length
      (c.takeAnswer link progressId job (some (.error e), t)) := by
  have hheard := h.heard_failure hover e t hpolled
  refine hheard.carry_on ?_ hpolled.clock (by simp [hopen])
  rw [readable_concat_error]
  exact h.unsettled

/-- What one readable answer makes of a wait. An answer that ends the job ends the wait with what
the job came to; after any other there is a pause and another turn, unless the caller cancels in
that pause. -/
theorem Waiting.advances_poll (h : Waiting c link progressId id start answers job s)
    (hover : c.isOver start.clock s = false) (poll : Poll) (t : Session)
    (hpolled : Polled c link id start answers.length (.ok poll) s t)
    (hopen : t.cancelled = false) :
    Advances c link progressId id start answers.length
      (c.takeAnswer link progressId job (some (.ok poll), t)) := by
  have hheard := h.heard_poll hover poll t hpolled
  cases houtcome : (job.apply poll).outcome? with
  | some outcome =>
    simp only [takeAnswer, houtcome]
    exact .ended _ _ _ (h.reported poll _ outcome hheard houtcome)
  | none =>
    have hmoved : (job.apply poll).isTerminal = false := by
      rw [← Job.outcome_isSome_iff, houtcome]
      rfl
    rw [Job.isTerminal_apply job poll h.isOpen] at hmoved
    have hunsettled : ∀ p ∈ readable (answers ++ [.ok poll]), p.isTerminal = false := by
      intro p hp
      rw [readable_concat_ok, List.mem_append, List.mem_singleton] at hp
      rcases hp with hearlier | rfl
      · exact h.unsettled p hearlier
      · exact hmoved
    simp only [takeAnswer, houtcome]
    refine hheard.carry_on hunsettled hpolled.clock fun hshown => ?_
    rw [showJob, Session.cancelled_showEntry, hopen, Bool.false_or] at hshown
    have hupdates := updates_shownBy progressId (Job.new id) _ start _ hheard.shown
    rw [readable_concat_ok, List.length_append, List.length_singleton, ← Nat.add_assoc] at hupdates
    refine .atUpdate answers poll ?_
    rw [← hupdates]
    exact hshown

/-- Every turn ends the wait as it should end, or leads to the next. A turn looks at the time,
then for a cancellation, then polls and takes the answer; each of these may end the wait, and the
cases follow that order. -/
theorem Waiting.turn_advances (h : Waiting c link progressId id start answers job s) :
    Advances c link progressId id start answers.length
      (c.turn link progressId start.clock job s) := by
  have hlook : c.isOver start.clock (s.look link) = c.isOver start.clock s := rfl
  cases hover : c.isOver start.clock s with
  | true =>
    have hlate : c.maxWait.nanoseconds ≤
        lookTime c link id start answers.length - start.clock.nanoseconds := by
      rw [← h.clock]
      simpa [isOver] using hover
    have hasked : answers = [] → c.maxWait.nanoseconds = 0 := by
      rintro rfl
      simpa [lookTime] using hlate
    simp only [turn, hlook, hover, if_true]
    exact .ended _ _ _ (h.toHeard.looked.timed_out h.unsettled hasked fun _ => hlate)
  | false =>
    cases hcancelled : (s.look link).cancelled with
    | true =>
      simp only [turn, hlook, hover, hcancelled, if_true, Bool.false_eq_true, if_false]
      refine .ended _ _ _ (h.toHeard.looked.abandoned h.unsettled ?_)
      rw [Session.cancelled_look, Bool.or_eq_true] at hcancelled
      rcases hcancelled with hbefore | hlooked
      · obtain ⟨hstart, rfl⟩ := h.patient hbefore
        exact .before hstart
      · rw [h.sent, show s.clock = ⟨lookTime c link id start answers.length⟩ from
          congrArg Duration.mk h.clock] at hlooked
        exact .atLook answers hlooked
    | false =>
      simp only [turn, hlook, hover, hcancelled, Bool.false_eq_true, if_false, h.id_eq]
      cases hpoll : c.pollOnce link id (s.look link) with
      | mk answer t =>
        cases answer with
        | none =>
          rw [takeAnswer]
          exact .ended _ _ _ (h.cut_short hover t hpoll)
        | some answer =>
          have hpolled := h.polled answer t hpoll
          have hopen := hpolled.cancelled.trans hcancelled
          cases answer with
          | error e => exact h.advances_failure hover e t hpolled hopen
          | ok poll => exact h.advances_poll hover poll t hpolled hopen

theorem Waiting.first : Waiting c link progressId id start [] (Job.new id) start where
  moved := rfl
  sent := by simp [sentAfter, pollCalls]
  shown := by simp [readable, shownBy]
  answered := fun k h => absurd h (Nat.not_lt_zero k)
  punctual := fun k h => absurd h (Nat.not_lt_zero k)
  unsettled := by simp [readable]
  clock := rfl
  patient := fun h => ⟨h, rfl⟩

/-- Where pauses take time, patience ends before the turns run out, because every turn takes one
poll and an interval of a nanosecond at least. -/
theorem Waiting.told (fuel : Nat) (h : Waiting c link progressId id start answers job s)
    (hfuel : c.maxWait.nanoseconds + 1 ≤ answers.length + fuel) :
    ∃ heard started, Told c link progressId id start heard started
      (c.awaitFrom link progressId start.clock fuel job s) := by
  induction fuel generalizing answers job s with
  | zero =>
    refine ⟨answers, _, h.toHeard.timed_out h.unsettled ?_ fun hpaces => ?_⟩
    · rintro rfl
      exact absurd hfuel (by simp)
    · have hlook : start.clock.nanoseconds + answers.length * c.interval.nanoseconds ≤
          lookTime c link id start answers.length := lookTime_ge hpaces answers.length
      have hlong := Nat.le_mul_of_pos_right answers.length hpaces.1
      omega
  | succ fuel ih =>
    have hturn := h.turn_advances
    simp only [awaitFrom]
    generalize c.turn link progressId start.clock job s = turn at hturn
    cases hturn with
    | ended heard started ending told => exact ⟨heard, started, told⟩
    | again heard moved later hwaiting hmore => exact ih hwaiting (by omega)

end

theorem awaitJob_told (c : Client) (link : Link) (progressId id : String) (start : Session) :
    ∃ answers started, Told c link progressId id start answers started
      (c.awaitJob link progressId (Job.new id) start) :=
  Waiting.first.told (c.maxWait.nanoseconds + 1) (by simp)

def localJob : Web.Address :=
  ⟨"http", [], [], some "[::1]".toList, some 9876,
    .segments ["api".toList, "v1".toList, "jobs".toList, "j1".toList], none, none⟩

end Client

end Subtitling.Service
