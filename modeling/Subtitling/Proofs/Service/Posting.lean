import Subtitling.Proofs.Service.Job
import Subtitling.Proofs.Service.Retry
import Subtitling.Proofs.Service.Session

/-!
Translating lines at once. The same payload is posted again as long as the service asks for another
attempt, attempts are left and the caller does not cancel. A run of posts is told by their number:
each is what the service answers to that many posts before, at a time that only the posts and pauses
before decide, and all but the last were answered by an overloaded service.
-/

namespace Subtitling.Service

open Subtitle (Line)

/-- A reply that asks for another attempt: there were too many requests, or the service failed. -/
def Reply.AsksAgain (reply : Reply) : Prop :=
  reply.status = 429 ∨ 500 ≤ reply.status ∧ reply.status < 600

/-- A reply that holds lines: it is no failure, and its body is what a completed job delivers or a
list of readable records. -/
def Reply.Holds (reply : Reply) (lines : List Line) : Prop :=
  reply.status = 200 ∧
    ((∃ poll, Poll.read? reply.body = some poll ∧ poll.Delivers lines) ∨
      ∃ records, (Text.Utf8.decode? reply.body).bind Json.read? = some (.array records) ∧
        List.Forall₂ Carries records lines)

namespace Client

/-- Only a reply that asks for it is worth another attempt. Everything else that a reply may be,
a bad record among it, is a failure for good. -/
theorem isRetryable_readSync_iff (reply : Reply) (e : Error) (h : readSync reply = .error e) :
    e.isRetryable = true ↔ reply.AsksAgain := by
  simp only [readSync] at h
  split at h
  · rename_i hstatus
    have hmalformed : ∃ detail, e = .malformed detail := by
      split at h
      · exact readLines_error _ e h
      · exact ⟨_, (Except.error.inj h).symm⟩
    obtain ⟨detail, rfl⟩ := hmalformed
    simp [Error.isRetryable, Reply.AsksAgain, hstatus]
  · split at h
    · rename_i hstatus
      obtain rfl := Except.error.inj h
      simp [Error.isRetryable, Reply.AsksAgain, hstatus]
    · split at h
      · rename_i hstatus
        obtain rfl := Except.error.inj h
        simp only [Bool.and_eq_true, decide_eq_true_eq] at hstatus
        simp [Error.isRetryable, Reply.AsksAgain, hstatus]
      · rename_i hstatus hfault
        obtain rfl := Except.error.inj h
        simp only [Bool.and_eq_true, decide_eq_true_eq] at hfault
        simp [Error.isRetryable, Reply.AsksAgain, hstatus]
        omega

theorem holds_of_readSync (reply : Reply) (lines : List Line) (h : readSync reply = .ok lines) :
    reply.Holds lines := by
  simp only [readSync] at h
  split at h
  · rename_i hstatus
    split at h
    · rename_i value hvalue
      obtain ⟨records, rfl, hrecords⟩ := (readLines_eq_ok_iff value lines).mp h
      exact ⟨hstatus, .inr ⟨records, hvalue, hrecords⟩⟩
    · cases h
  · split at h
    · cases h
    · split at h <;> cases h

section
variable (c : Client) (link : Link) (payload : Json) (b : Web.Address) (start : Session)

def postCall : Call := ⟨.post, b, some payload⟩

def posted (count : Nat) : List Call :=
  start.calls ++ List.replicate count (postCall payload b)

/-- What comes of the post that follows a number of posts, if it is not cut short. -/
def postAnswer (count : Nat) : Except Error Reply :=
  Session.outcome link c.timeouts.sync (postCall payload b)
    (link.respond (posted payload b start count) (postCall payload b))

/-- Whether the caller cuts the post short that follows a number of posts. -/
def postCancelled (count : Nat) : Bool :=
  (link.respond (posted payload b start count) (postCall payload b)).cancels

/-- The time at which a post is due after a number of them, each of which took its time and had the
pause of the policy behind it. -/
def postTime : Nat → Nat
  | 0 => start.clock.nanoseconds
  | count + 1 => postTime count +
      (Session.timeSpent link (posted payload b start count) c.timeouts.sync
        (link.respond (posted payload b start count) (postCall payload b))).nanoseconds +
      (link.pauseTime (posted payload b start (count + 1))
        (c.retry.delay (link.jitter (count + 1)) (count + 1))).nanoseconds

def replyTime (count : Nat) : Nat :=
  postTime c link payload b start count +
    (Session.timeSpent link (posted payload b start count) c.timeouts.sync
      (link.respond (posted payload b start count) (postCall payload b))).nanoseconds

inductive PostsEnd : Nat → Except Error (List Line) → Prop
  /-- The caller had cancelled before the first post. -/
  | unsent (h : start.cancelled = true) : PostsEnd 0 (.error .cancelled)
  /-- The caller cancelled in the pause after a post that would have had another. -/
  | calledOff (count : Nat) (left : count + 1 < max c.retry.attempts 1)
      (h : link.cancelsInPause (posted payload b start (count + 1))
        ⟨replyTime c link payload b start count⟩ = true) :
      PostsEnd (count + 1) (.error .cancelled)
  | cutShort (count : Nat) (h : postCancelled link payload b start count = true) :
      PostsEnd (count + 1) (.error .cancelled)
  | undelivered (count : Nat) (reason : String)
      (h : postAnswer c link payload b start count = .error (.unavailable reason)) :
      PostsEnd (count + 1) (.error (.unavailable reason))
  /-- The last post had a reply that does not ask for another attempt. -/
  | answered (count : Nat) (reply : Reply)
      (h : postAnswer c link payload b start count = .ok reply) (final : ¬ reply.AsksAgain) :
      PostsEnd (count + 1) (readSync reply)
  /-- All attempts had replies that ask for another. -/
  | exhausted (count : Nat) (reply : Reply) (e : Error)
      (h : postAnswer c link payload b start count = .ok reply) (again : reply.AsksAgain)
      (he : readSync reply = .error e) (last : count + 1 = max c.retry.attempts 1) :
      PostsEnd (count + 1) (.error (RetryPolicy.giveUp e (count + 1)))

structure Posts (count : Nat) (ending : Except Error (List Line) × Session) : Prop where
  sent : ending.2.calls = posted payload b start count
  few : count ≤ max c.retry.attempts 1
  overloaded : ∀ k, k + 1 < count → ∃ reply,
    postAnswer c link payload b start k = .ok reply ∧ reply.AsksAgain
  ends : PostsEnd c link payload b start count ending.1

/-- Another attempt is due after a number of posts. -/
structure Posting (count : Nat) (s : Session) : Prop where
  sent : s.calls = posted payload b start count
  overloaded : ∀ k < count, ∃ reply,
    postAnswer c link payload b start k = .ok reply ∧ reply.AsksAgain
  clock : s.cancelled = false → s.clock.nanoseconds = postTime c link payload b start count
  before : s.cancelled = true → count = 0 → start.cancelled = true
  paused : s.cancelled = true → ∀ earlier, count = earlier + 1 →
    link.cancelsInPause (posted payload b start count)
      ⟨replyTime c link payload b start earlier⟩ = true

variable {c link payload b start} {count : Nat} {s : Session}

theorem posted_succ (count : Nat) :
    posted payload b start count ++ [postCall payload b] = posted payload b start (count + 1) := by
  simp only [posted, List.append_assoc, List.replicate_succ']

inductive Attempted (c : Client) (link : Link) (payload : Json) (b : Web.Address) (start : Session)
    (count : Nat) (s : Session) : Except Error (List Line) × Session → Prop
  | skipped (h : s.cancelled = true) :
    Attempted c link payload b start count s (.error .cancelled, s)
  | cutShort (t : Session) (sent : t.calls = posted payload b start (count + 1))
      (h : postCancelled link payload b start count = true) :
      Attempted c link payload b start count s (.error .cancelled, t)
  | undelivered (t : Session) (sent : t.calls = posted payload b start (count + 1))
      (reason : String)
      (h : postAnswer c link payload b start count = .error (.unavailable reason)) :
      Attempted c link payload b start count s (.error (.unavailable reason), t)
  | answered (t : Session) (sent : t.calls = posted payload b start (count + 1))
      (running : t.cancelled = false)
      (clock : t.clock.nanoseconds = replyTime c link payload b start count) (reply : Reply)
      (h : postAnswer c link payload b start count = .ok reply) :
      Attempted c link payload b start count s (readSync reply, t)

theorem syncPath_eq : syncPath = "/api/v1/translate/content" := rfl

/-- What is known after the post of an attempt: that it was sent, what it was answered, and, if it
was not cut short, when the answer came and that the caller has not cancelled. -/
theorem Posting.requested (h : Posting c link payload b start count s)
    (hb : c.IsAddress "/api/v1/translate/content" b) (hrunning : s.cancelled = false)
    (answer : Option (Except Error Reply)) (t : Session)
    (hrequest : c.requestUnlessCancelled link c.timeouts.sync .post syncPath (some payload) s =
      (answer, t)) :
    t.calls = posted payload b start (count + 1) ∧
      answer = (if postCancelled link payload b start count then none
        else some (postAnswer c link payload b start count)) ∧
      (answer.isSome → t.cancelled = false ∧
        t.clock.nanoseconds = replyTime c link payload b start count) := by
  have haddress := (c.address_eq_ok_iff syncPath b).mpr (syncPath_eq ▸ hb)
  have hanswer := c.requestUnlessCancelled_fst link c.timeouts.sync .post syncPath (some payload) s
  have hcalls := c.calls_requestUnlessCancelled link c.timeouts.sync .post syncPath
    (some payload) s
  have hflag := c.cancelled_requestUnlessCancelled_of_some link c.timeouts.sync .post syncPath
    (some payload) s
  have hclock := c.clock_requestUnlessCancelled_of_some link c.timeouts.sync .post syncPath
    (some payload) s
  rw [c.callsOf_ok .post syncPath _ b hb, h.sent] at hcalls
  simp only [answer?, haddress, h.sent] at hanswer
  simp only [timeTaken, haddress, h.sent, h.clock hrunning] at hclock
  simp only [hrequest] at hanswer hcalls hflag hclock
  refine ⟨hcalls.trans (posted_succ count), hanswer, fun hsome => ?_⟩
  obtain ⟨result, hresult⟩ := Option.isSome_iff_exists.mp hsome
  exact ⟨(hflag result hresult).trans hrunning, hclock result hresult⟩

/-- What one attempt of a run can come to. The caller may have cancelled before it or may cut it
short; else no reply comes in time, or one that is read. -/
theorem Posting.attempted (h : Posting c link payload b start count s)
    (hb : c.IsAddress "/api/v1/translate/content" b) :
    Attempted c link payload b start count s (c.attemptSync link payload s) := by
  cases hcancelled : s.cancelled with
  | true =>
    simp only [attemptSync, hcancelled, if_true]
    exact .skipped hcancelled
  | false =>
    simp only [attemptSync, hcancelled, Bool.false_eq_true, if_false]
    cases hrequest : c.requestUnlessCancelled link c.timeouts.sync .post syncPath (some payload) s
      with
    | mk answer t =>
      obtain ⟨hsent, hpost, hpunctual⟩ := h.requested hb hcancelled answer t hrequest
      cases answer with
      | none =>
        have hcut : postCancelled link payload b start count = true := by
          by_contra hnot
          simp [hnot] at hpost
        exact .cutShort t hsent hcut
      | some result =>
        have hanswer : postAnswer c link payload b start count = result := by
          split at hpost
          · cases hpost
          · exact (Option.some.inj hpost).symm
        obtain ⟨hrunning, hclock⟩ := hpunctual rfl
        cases result with
        | error e =>
          obtain ⟨reason, rfl⟩ := Session.outcome_error link _ _ _ e hanswer
          exact .undelivered t hsent reason hanswer
        | ok reply => exact .answered t hsent hrunning hclock reply hanswer

theorem Posting.skip (h : Posting c link payload b start count s) (hcancelled : s.cancelled = true)
    (hfew : count + 1 ≤ max c.retry.attempts 1) :
    Posts c link payload b start count (.error .cancelled, s) := by
  refine ⟨h.sent, by omega, fun k hk => h.overloaded k (by omega), ?_⟩
  cases count with
  | zero => exact .unsent (h.before hcancelled rfl)
  | succ count =>
    exact .calledOff count hfew (h.paused hcancelled count rfl)

theorem Posting.ended (h : Posting c link payload b start count s)
    (hfew : count + 1 ≤ max c.retry.attempts 1) (t : Session)
    (hsent : t.calls = posted payload b start (count + 1)) (result : Except Error (List Line))
    (hend : PostsEnd c link payload b start (count + 1) result) :
    Posts c link payload b start (count + 1) (result, t) :=
  ⟨hsent, hfew, fun k hk => h.overloaded k (by omega), hend⟩

/-- After a reply that asks for it, the pause leads to another attempt. It is as long as the timer
makes it, and the clock of the session goes on by as much. -/
theorem Posting.pause (h : Posting c link payload b start count s) (t : Session)
    (hsent : t.calls = posted payload b start (count + 1)) (hrunning : t.cancelled = false)
    (hclock : t.clock.nanoseconds = replyTime c link payload b start count) (reply : Reply)
    (hreply : postAnswer c link payload b start count = .ok reply) (hagain : reply.AsksAgain) :
    Posting c link payload b start (count + 1)
      (t.pause link (c.retry.delay (link.jitter (count + 1)) (count + 1))) where
  sent := by rw [Session.calls_pause, hsent]
  overloaded := by
    intro k hk
    rcases Nat.lt_succ_iff_lt_or_eq.mp hk with hearlier | rfl
    · exact h.overloaded k hearlier
    · exact ⟨reply, hreply, hagain⟩
  clock := by
    intro hopen
    rw [Session.cancelled_pause, hrunning, Bool.false_or] at hopen
    rw [t.clock_pause link _ hopen, hclock, hsent, postTime, replyTime]
  before := fun _ hzero => absurd hzero (Nat.succ_ne_zero count)
  paused := by
    rintro hcancelled earlier hcount
    obtain rfl := Nat.succ.inj hcount
    rw [Session.cancelled_pause, hrunning, hsent, Bool.false_or,
      show t.clock = ⟨replyTime c link payload b start count⟩ from
        congrArg Duration.mk hclock] at hcancelled
    exact hcancelled

theorem not_asksAgain_of_ok (reply : Reply) (lines : List Line) (h : readSync reply = .ok lines) :
    ¬ reply.AsksAgain := by
  have hstatus := (holds_of_readSync reply lines h).1
  simp only [Reply.AsksAgain]
  omega

/-- An attempt ends the run, or it had a reply that asks for another. As long as attempts are
left that reply leads on; it is the last one that turns it into a failure of the service. -/
theorem Posting.decided (h : Posting c link payload b start count s)
    (hfew : count + 1 ≤ max c.retry.attempts 1) (ending : Except Error (List Line) × Session)
    (hattempted : Attempted c link payload b start count s ending) :
    ((∃ total, Posts c link payload b start total ending) ∧
        ∀ e, ending.1 = .error e → e.isRetryable = false) ∨
      ∃ reply e, postAnswer c link payload b start count = .ok reply ∧ reply.AsksAgain ∧
        readSync reply = .error e ∧ e.isRetryable = true ∧ ending.1 = .error e ∧
        ending.2.calls = posted payload b start (count + 1) ∧ ending.2.cancelled = false ∧
        ending.2.clock.nanoseconds = replyTime c link payload b start count := by
  cases hattempted with
  | skipped hcancelled =>
    exact .inl ⟨⟨count, h.skip hcancelled hfew⟩, fun e he => Except.error.inj he ▸ rfl⟩
  | cutShort t hsent hcut =>
    have hover := h.ended hfew t hsent _ (.cutShort count hcut)
    exact .inl ⟨⟨count + 1, hover⟩, fun e he => Except.error.inj he ▸ rfl⟩
  | undelivered t hsent reason hlost =>
    have hover := h.ended hfew t hsent _ (.undelivered count reason hlost)
    exact .inl ⟨⟨count + 1, hover⟩, fun e he => Except.error.inj he ▸ rfl⟩
  | answered t hsent hrunning hclock reply hreply =>
    by_cases hagain : reply.AsksAgain
    · cases hread : readSync reply with
      | ok lines => exact absurd hagain (not_asksAgain_of_ok reply lines hread)
      | error e =>
        have hretry := (isRetryable_readSync_iff reply e hread).mpr hagain
        exact .inr ⟨reply, e, hreply, hagain, hread, hretry, rfl, hsent, hrunning, hclock⟩
    · have hover := h.ended hfew t hsent _ (.answered count reply hreply hagain)
      refine .inl ⟨⟨count + 1, hover⟩, fun e he => ?_⟩
      rw [← Bool.not_eq_true, isRetryable_readSync_iff reply e he]
      exact hagain

/-- A run of posts that starts or goes on comes to an end, after no more posts than attempts. By
induction on the attempts that are left: one more is either the last or leads to the same with
one attempt less. -/
theorem Posting.posts (hb : c.IsAddress "/api/v1/translate/content" b) (left : Nat)
    (h : Posting c link payload b start count s)
    (hleft : count + 1 + left = max c.retry.attempts 1) :
    ∃ total, Posts c link payload b start total
      (RetryPolicy.attemptFrom (fun n s => s.pause link (c.retry.delay (link.jitter n) n))
        (c.attemptSync link payload) (count + 1) left s) := by
  induction left generalizing count s with
  | zero =>
    rcases h.decided (by omega) _ (h.attempted hb) with
      ⟨hposts, hfinal⟩ | ⟨reply, e, hreply, hagain, hread, hretry, herror, hsent, -⟩
    · rw [RetryPolicy.attemptFrom_of_final _ _ _ _ s hfinal]
      exact hposts
    · rw [RetryPolicy.attemptFrom_zero _ _ _ s e herror hretry]
      have hend := PostsEnd.exhausted count reply e hreply hagain hread (by omega)
      exact ⟨count + 1, h.ended (by omega) _ hsent _ hend⟩
  | succ left ih =>
    rcases h.decided (by omega) _ (h.attempted hb) with
      ⟨hposts, hfinal⟩ | ⟨reply, e, hreply, hagain, -, hretry, herror, hsent, hrunning, hclock⟩
    · rw [RetryPolicy.attemptFrom_of_final _ _ _ _ s hfinal]
      exact hposts
    · rw [RetryPolicy.attemptFrom_succ _ _ _ _ s e herror hretry]
      exact ih (h.pause _ hsent hrunning hclock reply hreply hagain) (by omega)

theorem Posting.first : Posting c link payload b start 0 start where
  sent := by simp [posted]
  overloaded := fun k hk => absurd hk (Nat.not_lt_zero k)
  clock := fun _ => rfl
  before := fun hcancelled _ => hcancelled
  paused := fun _ earlier hzero => absurd hzero.symm (Nat.succ_ne_zero earlier)

end

/-- Translating at once is a run of posts. -/
theorem translateSync_posts (c : Client) (link : Link) (payload : Json) (b : Web.Address)
    (start : Session) (hb : c.IsAddress "/api/v1/translate/content" b) :
    ∃ total, Posts c link payload b start total (c.translateSync link payload start) :=
  Posting.first.posts hb (max c.retry.attempts 1 - 1) (by omega)

end Client

end Subtitling.Service
