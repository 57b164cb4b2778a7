import Subtitling.Proofs.Service.Addresses
import Subtitling.Proofs.Service.Posting
import Subtitling.Proofs.Service.Waiting

/-!
Both ways of translating lines. What comes of the submission decides the way once and for all: where
a job was made the calls that follow ask for that job and may drop it, and where jobs are not taken
they are posts of the same payload, of which only an overloaded service gets more than one. Lines
come back only from a reply that holds a record for each of them. The id of a job is put into
addresses as it is, so that slashes and dots in it may lead elsewhere.
-/

namespace Subtitling.Service

open Subtitle (Line)

/-- What is sent of a task, as a job or at once. -/
def Task.payload (task : Task) :
    Json := (Payload.make task.texts task.metadata task.settings).toJson

/-- The id that a job was given: a text that is not blank, trimmed, or a number. -/
def Submitted.Names (s : Submitted) (id : String) : Prop :=
  (∃ text, s.jobId = some (.string text) ∧ Text.isBlankText text = false ∧
      Text.trimmed text = id) ∨
    ∃ n, s.jobId = some (.number n) ∧ (Json.number n).compact = id

theorem Submitted.id_eq_some_iff (s : Submitted) (id : String) :
    s.id? = some id ↔ s.Names id := by
  rw [Submitted.id?, Submitted.Names]
  cases hjob : s.jobId with
  | none => simp
  | some value =>
    cases value with
    | string text =>
      cases hblank : Text.isBlankText text <;> simp [jobId?, hblank]
    | number n => simp [jobId?]
    | null => simp [jobId?]
    | bool b => simp [jobId?]
    | array items => simp [jobId?]
    | object fields => simp [jobId?]

/-- The reply to one of the requests that a session has sent since the start of a run. -/
def Session.HasReply (link : Link) (s start : Session) (reply : Reply) : Prop :=
  ∃ before call timeout, start.calls <+: before ∧ before ++ [call] <+: s.calls ∧
    outcome link timeout call (link.respond before call) = .ok reply

theorem Session.HasReply.of_submitted {link : Link} {start later s : Session} {reply : Reply}
    (h : s.HasReply link later reply) (hcalls : start.calls <+: later.calls) :
    s.HasReply link start reply := by
  obtain ⟨before, call, timeout, hbefore, hsent, houtcome⟩ := h
  exact ⟨before, call, timeout, hcalls.trans hbefore, hsent, houtcome⟩

namespace Client

section
variable (c : Client) (link : Link) (task : Task) (start : Session)

def submitCall (task : Task) (a : Web.Address) : Call := ⟨.post, a, some task.payload⟩

def submitAnswer (a : Web.Address) : Except Error Reply :=
  Session.outcome link c.timeouts.submit (submitCall task a)
    (link.respond start.calls (submitCall task a))

def submitted (a : Web.Address) : Session :=
  (start.send link c.timeouts.submit (submitCall task a)).2

theorem calls_submitted (a : Web.Address) :
    (submitted c link task start a).calls = start.calls ++ [submitCall task a] := rfl

inductive Course : Except Error (List Line) × Session → Prop
  /-- There is no address to submit to, so nothing is sent. -/
  | unaddressed (reason : String)
      (h : ∀ a, ¬ c.IsAddress "/api/v1/jobs/translate/content" a) :
      Course (.error (.unavailable reason), start)
  | undelivered (a : Web.Address) (ha : c.IsAddress "/api/v1/jobs/translate/content" a)
      (reason : String)
      (h : submitAnswer c link task start a = .error (.unavailable reason)) :
      Course (.error (.unavailable reason), submitted c link task start a)
  | unreadable (a : Web.Address) (ha : c.IsAddress "/api/v1/jobs/translate/content" a)
      (reply : Reply) (h : submitAnswer c link task start a = .ok reply)
      (status : reply.status = 200) (unread : Submitted.read? reply.body = none) :
      Course (.error (.malformed decodeDetail), submitted c link task start a)
  /-- The submission was accepted without an id for the job. -/
  | nameless (a : Web.Address) (ha : c.IsAddress "/api/v1/jobs/translate/content" a)
      (reply : Reply) (h : submitAnswer c link task start a = .ok reply)
      (status : reply.status = 200) (s : Submitted) (read : Submitted.read? reply.body = some s)
      (unnamed : ∀ id, ¬ s.Names id) :
      Course (.error .missingJobId, submitted c link task start a)
  /-- A job was made, and all that follows is the wait for it: so many polls, of which there is one
  at least unless there is no patience or the caller had cancelled, and the call that drops the job
  if the wait was cancelled. -/
  | queued (a : Web.Address) (ha : c.IsAddress "/api/v1/jobs/translate/content" a)
      (reply : Reply) (h : submitAnswer c link task start a = .ok reply)
      (status : reply.status = 200) (s : Submitted) (read : Submitted.read? reply.body = some s)
      (id : String) (named : s.Names id) (answers : List (Except Error Poll)) (started : Nat)
      (ending : Except Error (List Line) × Session)
      (told : Told c link task.progressId id (submitted c link task start a) answers started
        ending)
      (asked : started = 0 → c.maxWait.nanoseconds = 0 ∨
        CancelledBetween c link id (submitted c link task start a) [])
      (drops : List Call)
      (dropped : drops = [] ∧ ending.1 ≠ .error .cancelled ∨
        drops = c.jobCalls .delete id ∧ ending.1 = .error .cancelled)
      (sent : ending.2.calls =
        start.calls ++ [submitCall task a] ++ c.pollCalls id started ++ drops) :
      Course ending
  /-- No jobs are taken, and all that follows are posts, of which there is one at least unless the
  caller had cancelled. -/
  | atOnce (a b : Web.Address) (ha : c.IsAddress "/api/v1/jobs/translate/content" a)
      (hb : c.IsAddress "/api/v1/translate/content" b) (reply : Reply)
      (h : submitAnswer c link task start a = .ok reply) (status : reply.status ≠ 200) (count : Nat)
      (ending : Except Error (List Line) × Session)
      (posts : Posts c link task.payload b (submitted c link task start a) count ending)
      (asked : count = 0 → (submitted c link task start a).cancelled = true)
      (sent : ending.2.calls = start.calls ++ [submitCall task a] ++
        List.replicate count (postCall task.payload b)) :
      Course ending

end

/-- A request that has the service translate lines at once. -/
def IsPost (c : Client) (call : Call) : Prop :=
  call.method = .post ∧ c.IsAddress "/api/v1/translate/content" call.address

/-- A request for a job. -/
def IsJobCall (c : Client) (call : Call) : Prop :=
  (call.method = .get ∨ call.method = .delete) ∧
    ∃ id, c.IsAddress ("/api/v1/jobs/" ++ id) call.address

theorem isJobCall_of_mem_jobCalls (c : Client) (method : Method) (id : String) (call : Call)
    (hmethod : method = .get ∨ method = .delete) (h : call ∈ c.jobCalls method id) :
    c.IsJobCall call := by
  rw [jobCalls, callsOf] at h
  split at h
  · rename_i a ha
    obtain rfl := List.mem_singleton.mp h
    exact ⟨hmethod, id, (c.address_eq_ok_iff _ a).mp ha⟩
  · cases h

theorem isJobCall_of_mem_pollCalls (c : Client) (id : String) (count : Nat) (call : Call)
    (h : call ∈ c.pollCalls id count) : c.IsJobCall call := by
  obtain ⟨calls, hcalls, hcall⟩ := List.mem_flatten.mp h
  obtain rfl := List.eq_of_mem_replicate hcalls
  exact c.isJobCall_of_mem_jobCalls .get id call (.inl rfl) hcall

theorem not_isPost_of_isJobCall (c : Client) (call : Call) (h : c.IsJobCall call) :
    ¬ c.IsPost call := by
  rintro ⟨hpost, -⟩
  rcases h.1 with hget | hdelete
  · cases hpost.symm.trans hget
  · cases hpost.symm.trans hdelete

/-- A submission is neither a request for a job nor one to translate at once. -/
theorem submitCall_alone (c : Client) (task : Task) (a : Web.Address)
    (ha : c.IsAddress "/api/v1/jobs/translate/content" a) :
    ¬ c.IsPost (submitCall task a) ∧ ¬ c.IsJobCall (submitCall task a) := by
  constructor
  · rintro ⟨-, hsync⟩
    obtain ⟨b, hb, hne⟩ := c.exists_sync_address a ha
    exact hne (hb.eq hsync)
  · rintro ⟨hget | hdelete, -⟩
    · cases hget
    · cases hdelete

theorem Ends.calls {c : Client} {link : Link} {id : String} {start t : Session}
    {answers : List (Except Error Poll)} {started : Nat} {result : Except Error (List Line)}
    (h : Ends c link id start answers started result t) :
    ∃ drops, (drops = [] ∧ result ≠ .error .cancelled ∨
        drops = c.jobCalls .delete id ∧ result = .error .cancelled) ∧
      t.calls = start.calls ++ c.pollCalls id started ++ drops := by
  cases h with
  | settled earlier last result t unsettled terminal outcome own sent =>
    exact ⟨[], .inl ⟨rfl, own⟩, by rw [sent, sentAfter, List.append_nil]⟩
  | expired answers t unsettled asked late sent =>
    exact ⟨[], .inl ⟨rfl, by simp⟩, by rw [sent, sentAfter, List.append_nil]⟩
  | calledOff answers t unsettled cancelled sent => exact ⟨_, .inr ⟨rfl, rfl⟩, sent⟩
  | cutShort answers t unsettled cancelled sent => exact ⟨_, .inr ⟨rfl, rfl⟩, sent⟩

theorem PostsEnd.unsent_of_zero {c : Client} {link : Link} {payload : Json} {b : Web.Address}
    {start : Session} {count : Nat} {result : Except Error (List Line)}
    (h : PostsEnd c link payload b start count result) (hcount : count = 0) :
    start.cancelled = true := by
  cases h with
  | unsent hcancelled => exact hcancelled
  | _ => cases hcount

section
variable (c : Client) (link : Link) (task : Task) (start : Session)

theorem translate_unaddressed (e : Error) (h : c.address submitPath = .error e) :
    c.translate link task start = (.error e, start) := by
  simp only [translate, request, h]

/-- Where there is an address, what comes of the submission decides the way. A failure ends it, a
job is waited for, and any other status leads to the posts. -/
theorem translate_addressed (a : Web.Address) (h : c.address submitPath = .ok a) :
    c.translate link task start =
      match submitAnswer c link task start a with
      | .error e => (.error e, submitted c link task start a)
      | .ok reply =>
        if reply.status = 200 then
          match readSubmitted reply with
          | .error e => (.error e, submitted c link task start a)
          | .ok id =>
            c.awaitJob link task.progressId (Job.new id) (submitted c link task start a)
        else c.translateSync link task.payload (submitted c link task start a) := by
  have hsend : c.request link c.timeouts.submit .post submitPath (some task.payload) start =
      (submitAnswer c link task start a, submitted c link task start a) := by
    simp only [request, h]
    rfl
  simp only [translate]
  rw [show (Payload.make task.texts task.metadata task.settings).toJson =
    task.payload from rfl, hsend]
  cases submitAnswer c link task start a <;> rfl

theorem submitPath_eq : submitPath = "/api/v1/jobs/translate/content" := rfl

/-- Every run takes one of the courses. The submission decides: where it was accepted its job is
waited for, and only where it was refused is the service asked to translate at once. -/
theorem course_translate : Course c link task start (c.translate link task start) := by
  cases haddress : c.address submitPath with
  | error e =>
    obtain ⟨reason, rfl⟩ := c.address_error submitPath e haddress
    rw [translate_unaddressed c link task start _ haddress]
    refine .unaddressed reason fun a ha => ?_
    rw [← submitPath_eq, ← address_eq_ok_iff, haddress] at ha
    cases ha
  | ok a =>
    have ha : c.IsAddress "/api/v1/jobs/translate/content" a :=
      submitPath_eq ▸ (c.address_eq_ok_iff submitPath a).mp haddress
    rw [translate_addressed c link task start a haddress]
    cases hanswer : submitAnswer c link task start a with
    | error e =>
      obtain ⟨reason, rfl⟩ := Session.outcome_error link _ _ _ e hanswer
      exact .undelivered a ha reason hanswer
    | ok reply =>
      by_cases hstatus : reply.status = 200
      · simp only [hstatus, if_true]
        cases hread : Submitted.read? reply.body with
        | none =>
          simp only [readSubmitted, hread]
          exact .unreadable a ha reply hanswer hstatus hread
        | some s =>
          cases hid : s.id? with
          | none =>
            simp only [readSubmitted, hread, hid]
            refine .nameless a ha reply hanswer hstatus s hread fun id hnamed => ?_
            rw [← Submitted.id_eq_some_iff, hid] at hnamed
            cases hnamed
          | some id =>
            have hnamed := (s.id_eq_some_iff id).mp hid
            obtain ⟨answers, started, htold⟩ :=
              awaitJob_told c link task.progressId id (submitted c link task start a)
            obtain ⟨drops, hdrops, hcalls⟩ := htold.ends.calls
            simp only [readSubmitted, hread, hid]
            exact .queued a ha reply hanswer hstatus s hread id hnamed answers started _ htold
              htold.ends.unasked drops hdrops (by rw [hcalls, calls_submitted])
      · obtain ⟨b, hb, -⟩ := c.exists_sync_address a ha
        obtain ⟨count, hposts⟩ :=
          translateSync_posts c link task.payload b (submitted c link task start a) hb
        simp only [hstatus, if_false]
        exact .atOnce a b ha hb reply hanswer hstatus count _ hposts hposts.ends.unsent_of_zero
          (by rw [hposts.sent, posted, calls_submitted])

end

theorem readPoll_eq_ok_iff (reply : Reply) (poll : Poll) :
    readPoll reply = .ok poll ↔ reply.status = 200 ∧ Poll.read? reply.body = some poll := by
  simp only [readPoll]
  by_cases hstatus : reply.status = 200
  · cases Poll.read? reply.body <;> simp [hstatus]
  · simp [hstatus]

/-- A poll that could be read is the reply of a request for its job. It came in time, with the
status of success and a body that can be read. -/
theorem pollAnswer_eq_ok (c : Client) (link : Link) (id : String) (sent : List Call) (poll : Poll)
    (h : c.pollAnswer? link id sent = some (.ok poll)) :
    ∃ call reply, c.jobCalls .get id = [call] ∧
      Session.outcome link c.timeouts.poll call (link.respond sent call) = .ok reply ∧
      reply.status = 200 ∧ Poll.read? reply.body = some poll := by
  simp only [pollAnswer?, answer?, Option.map_eq_some_iff] at h
  obtain ⟨answer, hanswer, hpoll⟩ := h
  cases ha : c.address ("/api/v1/jobs/" ++ id) with
  | error e =>
    simp only [ha, Option.some.injEq] at hanswer
    subst hanswer
    cases hpoll
  | ok a =>
    simp only [ha] at hanswer
    split at hanswer
    · cases hanswer
    · obtain rfl := Option.some.inj hanswer
      cases houtcome : Session.outcome link c.timeouts.poll ⟨.get, a, none⟩
          (link.respond sent ⟨.get, a, none⟩) with
      | error e =>
        rw [houtcome] at hpoll
        cases hpoll
      | ok reply =>
        rw [houtcome] at hpoll
        obtain ⟨hstatus, hread⟩ := (readPoll_eq_ok_iff reply poll).mp hpoll
        have hcalls := c.callsOf_ok .get _ none a ((c.address_eq_ok_iff _ a).mp ha)
        exact ⟨_, reply, hcalls, houtcome, hstatus, hread⟩

/-- The lines of a job are those that its last poll delivered. That poll was answered in this
very run, and the job took its lines from it record by record. -/
theorem Told.holds {c : Client} {link : Link} {progressId id : String} {start : Session}
    {answers : List (Except Error Poll)} {started : Nat}
    {ending : Except Error (List Line) × Session}
    (h : Told c link progressId id start answers started ending) (lines : List Line)
    (hok : ending.1 = .ok lines) :
    ∃ reply, ending.2.HasReply link start reply ∧ reply.Holds lines := by
  obtain ⟨result, t⟩ := ending
  obtain rfl : result = .ok lines := hok
  cases h.ends with
  | settled earlier last result t unsettled terminal outcome own sent =>
    have hlast := h.answered earlier.length (by simp)
    rw [List.getElem_concat_length rfl] at hlast
    obtain ⟨call, reply, hcall, hreply, hstatus, hread⟩ := c.pollAnswer_eq_ok link id _ last hlast
    obtain ⟨poll, hpoll, hdelivers⟩ :=
      (Job.outcome_after_eq_ok_iff (Job.new id) (.polled last) lines
      (Job.isTerminal_new id)).mp outcome
    cases hpoll
    refine ⟨reply, ⟨_, call, c.timeouts.poll, List.prefix_append _ _, ?_, hreply⟩, hstatus,
      .inl ⟨last, hread, hdelivers⟩⟩
    rw [sent, ← sentAfter_succ, hcall]
    exact List.prefix_refl _

/-- Lines that posts come to are those of the last reply, which is a success that holds a
readable record for each. -/
theorem Posts.holds {c : Client} {link : Link} {payload : Json} {b : Web.Address} {start : Session}
    {count : Nat} {ending : Except Error (List Line) × Session}
    (h : Posts c link payload b start count ending) (lines : List Line)
    (hok : ending.1 = .ok lines) :
    ∃ reply, ending.2.HasReply link start reply ∧ reply.Holds lines := by
  obtain ⟨result, t⟩ := ending
  have hends := h.ends
  have hsent := h.sent
  simp only at hok hends hsent
  generalize hresult : result = outcome at hends
  cases hends with
  | answered count reply hreply final =>
    refine ⟨reply, ⟨_, _, c.timeouts.sync, List.prefix_append _ _, ?_, hreply⟩,
      holds_of_readSync reply lines (hresult.symm.trans hok)⟩
    rw [hsent, ← posted_succ]
    exact List.prefix_refl _
  | _ => cases hresult.symm.trans hok

/-- On each course the calls are those for a job, or posts, and never both. The submission is
neither of them, as its address is not that of posts and calls for a job are made in other ways.
A course with a job sends no posts, and one without has no id to ask for. -/
theorem Course.exclusive {c : Client} {link : Link} {task : Task} {start : Session}
    {ending : Except Error (List Line) × Session} (h : Course c link task start ending) :
    ∃ sent, ending.2.calls = start.calls ++ sent ∧
      ((∀ call ∈ sent, ¬ c.IsPost call) ∨ ∀ call ∈ sent, ¬ c.IsJobCall call) := by
  have hsubmitted (a : Web.Address) (ha : c.IsAddress "/api/v1/jobs/translate/content" a) :
      ∃ sent, (submitted c link task start a).calls = start.calls ++ sent ∧
        ((∀ call ∈ sent, ¬ c.IsPost call) ∨ ∀ call ∈ sent, ¬ c.IsJobCall call) :=
    ⟨[submitCall task a], rfl, .inl (by simpa using (c.submitCall_alone task a ha).1)⟩
  cases h with
  | unaddressed reason ha => exact ⟨[], by simp, .inl (by simp)⟩
  | undelivered a ha reason hanswer => exact hsubmitted a ha
  | unreadable a ha reply hanswer status unread => exact hsubmitted a ha
  | nameless a ha reply hanswer status s read unnamed => exact hsubmitted a ha
  | queued a ha reply hanswer status s read id named answers started ending told asked drops
      dropped sent =>
    refine ⟨submitCall task a :: c.pollCalls id started ++ drops, by simp [sent], .inl ?_⟩
    have hdrops : ∀ call ∈ drops, c.IsJobCall call := by
      rcases dropped with ⟨rfl, -⟩ | ⟨rfl, -⟩
      · simp
      · exact fun call hcall => c.isJobCall_of_mem_jobCalls .delete id call (.inr rfl) hcall
    intro call hcall
    rw [List.cons_append, List.mem_cons, List.mem_append] at hcall
    rcases hcall with rfl | hpoll | hdrop
    · exact (c.submitCall_alone task a ha).1
    · exact c.not_isPost_of_isJobCall call (c.isJobCall_of_mem_pollCalls id started call hpoll)
    · exact c.not_isPost_of_isJobCall call (hdrops call hdrop)
  | atOnce a b ha hb reply hanswer status count ending posts asked sent =>
    refine ⟨submitCall task a :: List.replicate count (postCall task.payload b), by simp [sent],
      .inr ?_⟩
    intro call hcall
    rcases List.mem_cons.mp hcall with rfl | hpost
    · exact (c.submitCall_alone task a ha).2
    · obtain rfl := List.eq_of_mem_replicate hpost
      rintro ⟨hget | hdelete, -⟩
      · cases hget
      · cases hdelete

/-- Lines come back only from a reply to one of the calls of the course. -/
theorem Course.holds {c : Client} {link : Link} {task : Task} {start : Session}
    {ending : Except Error (List Line) × Session} (h : Course c link task start ending)
    (lines : List Line) (hok : ending.1 = .ok lines) :
    ∃ reply, ending.2.HasReply link start reply ∧ reply.Holds lines := by
  have hsubmitted (a : Web.Address) : start.calls <+: (submitted c link task start a).calls :=
    List.prefix_append _ _
  cases h with
  | unaddressed reason ha => cases hok
  | undelivered a ha reason hanswer => cases hok
  | unreadable a ha reply hanswer status unread => cases hok
  | nameless a ha reply hanswer status s read unnamed => cases hok
  | queued a ha reply hanswer status s read id named answers started ending told =>
    obtain ⟨last, hlast, hholds⟩ := told.holds lines hok
    exact ⟨last, hlast.of_submitted (hsubmitted a), hholds⟩
  | atOnce a b ha hb reply hanswer status count ending posts =>
    obtain ⟨last, hlast, hholds⟩ := posts.holds lines hok
    exact ⟨last, hlast.of_submitted (hsubmitted a), hholds⟩

/-- Translating lines takes one of the courses, and each of them keeps to one way: there is never a
request for a job beside a post that translates at once. Lines come back only from a reply, to a
request of this very run, that holds a readable record for each of them. Each poll is one request to
the address of the base with `/api/v1/jobs/` and the id behind it, and what drops the job goes there
too. For an id without slashes that is not where lines are translated at once, unless the base has a
fragment, which swallows all that is put behind it. -/
theorem translate_takes_one_course (c : Client) (link : Link) (task : Task) (start : Session) :
    Course c link task start (c.translate link task start) ∧
    (c.baseUrl = "" → c.translate link task start =
      (.error (.unavailable "Translation service URL not configured"), start)) ∧
    (∀ lines, (c.translate link task start).1 = .ok lines →
      ∃ reply, (c.translate link task start).2.HasReply link start reply ∧ reply.Holds lines) ∧
    (∀ sent, (c.translate link task start).2.calls = start.calls ++ sent →
      (∃ call ∈ sent, c.IsJobCall call) → ∀ call ∈ sent, ¬ c.IsPost call) ∧
    ∀ id a, c.IsAddress ("/api/v1/jobs/" ++ id) a →
      (∀ method, c.jobCalls method id = [⟨method, a, none⟩]) ∧
      (∀ count, c.pollCalls id count = List.replicate count ⟨.get, a, none⟩) ∧
      ∀ b, c.IsAddress "/api/v1/translate/content" b → b.fragment = none →
        (∀ x ∈ id.toList, Web.isSlash x = false) → a.target ≠ b.target := by
  have hcourse := course_translate c link task start
  refine ⟨hcourse, fun hbase => ?_, hcourse.holds, fun sent hsent hjob call hcall => ?_,
    fun id a ha => ⟨fun method => c.callsOf_ok method _ none a ha, fun count => ?_,
      fun b hb hfragment hid => c.job_target_ne id a b ha hb hid hfragment⟩⟩
  · have haddress : c.address submitPath =
        .error (.unavailable "Translation service URL not configured") := by
      simp [address, hbase]
    exact translate_unaddressed c link task start _ haddress
  · obtain ⟨calls, hcalls, hexclusive⟩ := hcourse.exclusive
    obtain rfl := List.append_cancel_left (hsent.symm.trans hcalls)
    rcases hexclusive with hposts | hjobs
    · exact hposts call hcall
    · obtain ⟨other, hother, hnamed⟩ := hjob
      exact absurd hnamed (hjobs other hother)
  · rw [pollCalls, jobCalls, c.callsOf_ok .get _ none a ha, List.flatten_replicate_singleton]

def greeting : Task :=
  ⟨["Hello"], ⟨7, "Film", "en", "fr", .movie⟩, ⟨"", "m", ⟨0⟩, 1, .disabled⟩, "p"⟩

def localSubmission : Web.Address :=
  ⟨"http", [], [], some "[::1]".toList, some 9876,
    .segments ["api".toList, "v1".toList, "jobs".toList, "translate".toList, "content".toList],
    none, none⟩

def localTranslation : Web.Address :=
  ⟨"http", [], [], some "[::1]".toList, some 9876,
    .segments ["api".toList, "v1".toList, "translate".toList, "content".toList], none, none⟩

/-- Where the submission gives a job, only that job is asked for. Where it is refused, an overloaded
service has the lines posted once more. -/
theorem translate_takes_one_course_replay :
    let c := Client.standard "http://[::1]:9876"
    let line := "\x7b\"position\": 0, \"line\": \"Salut\"\x7d"
    let queue := Link.replay [.reply ⟨200, "\x7b\"jobId\": \"j1\"\x7d".toUTF8.toList⟩, .lost,
      .reply ⟨200, ("\x7b\"status\": \"completed\", \"result\": [" ++ line ++
        "]\x7d").toUTF8.toList⟩]
    let plain := Link.replay [.reply ⟨404, []⟩, .reply ⟨503, []⟩,
      .reply ⟨200, ("[" ++ line ++ "]").toUTF8.toList⟩]
    let queued := c.translate queue greeting (.start false)
    let atOnce := c.translate plain greeting (.start false)
    (Course c queue greeting (.start false) queued ∧ queued.1 = .ok [⟨0, "Salut"⟩] ∧
      queued.2.calls.map (fun call => (call.method, call.address)) =
        [(.post, localSubmission), (.get, localJob), (.get, localJob)]) ∧
    (Course c plain greeting (.start false) atOnce ∧ atOnce.1 = .ok [⟨0, "Salut"⟩] ∧
      atOnce.2.calls.map (fun call => (call.method, call.address)) =
        [(.post, localSubmission), (.post, localTranslation), (.post, localTranslation)]) ∧
    localJob.target ≠ localTranslation.target := by
  intro c line queue plain queued atOnce
  obtain ⟨hqueued, -, -, -, htargets⟩ := translate_takes_one_course c queue greeting (.start false)
  obtain ⟨hplain, -⟩ := translate_takes_one_course c plain greeting (.start false)
  have hjob : c.IsAddress ("/api/v1/jobs/" ++ "j1") localJob :=
    ⟨by decide, by decide +kernel, by decide +kernel⟩
  have hsync : c.IsAddress "/api/v1/translate/content" localTranslation :=
    ⟨by decide, by decide +kernel, by decide +kernel⟩
  have hid : ∀ x ∈ "j1".toList, Web.isSlash x = false := by simp [Web.isSlash]
  exact ⟨⟨hqueued, by decide +kernel, by decide +kernel⟩,
    ⟨hplain, by decide +kernel, by decide +kernel⟩,
    (htargets "j1" localJob hjob).2.2 localTranslation hsync rfl hid⟩

/-- An id is put into addresses as it is. With slashes and dots in it, asking for the job and having
it dropped both go to where lines are translated at once, in the run of a submitted job. -/
theorem job_leads_to_translation :
    let c := Client.standard "http://[::1]:9876"
    let made : Answer := .reply ⟨200, "\x7b\"jobId\": \"../translate/content\"\x7d".toUTF8.toList⟩
    let cancelled := { Link.replay [made] with respond _ _ := ⟨made, .ofSeconds 1, true⟩ }
    let hasty := { Link.replay [made] with cancelsInPause := fun sent _ => sent.length == 2 }
    c.IsAddress "/api/v1/translate/content" localTranslation ∧
      (c.translate cancelled greeting (.start false)).2.calls.map
        (fun call => (call.method, call.address)) =
          [(.post, localSubmission), (.delete, localTranslation)] ∧
      (c.translate hasty greeting (.start false)).2.calls.map
        (fun call => (call.method, call.address)) =
          [(.post, localSubmission), (.get, localTranslation), (.delete, localTranslation)] := by
  exact ⟨⟨by decide, by decide +kernel, by decide +kernel⟩, by decide +kernel, by decide +kernel⟩

end Client

end Subtitling.Service
