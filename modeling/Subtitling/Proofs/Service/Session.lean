import Subtitling.Service.Client

/-!
What each thing that a session goes through changes, and what it leaves alone. Sending adds one
call and no event, showing adds one event and no call, pausing adds neither, and nothing ever
takes a call or an event back, turns the clock back or undoes a cancellation.
-/

namespace Subtitling.Service

/-- A link over which requests end one after the other as told, each after a second, and all later
ones are lost. -/
def Link.replay (answers : List Answer) : Link :=
  { Link.constant .lost (fun _ => "") with
    respond sent _ := ⟨answers[sent.length]?.getD .lost, .ofSeconds 1, false⟩ }

namespace Session

@[simp] theorem calls_cancelIf (s : Session) (b : Bool) : (s.cancelIf b).calls = s.calls := rfl
@[simp] theorem clock_cancelIf (s : Session) (b : Bool) : (s.cancelIf b).clock = s.clock := rfl
@[simp] theorem events_cancelIf (s : Session) (b : Bool) : (s.cancelIf b).events = s.events := rfl
@[simp] theorem cancelled_cancelIf (s : Session) (b : Bool) :
    (s.cancelIf b).cancelled = (s.cancelled || b) := rfl

@[simp] theorem calls_look (s : Session) (link : Link) : (s.look link).calls = s.calls := rfl
@[simp] theorem clock_look (s : Session) (link : Link) : (s.look link).clock = s.clock := rfl
@[simp] theorem events_look (s : Session) (link : Link) : (s.look link).events = s.events := rfl
@[simp] theorem cancelled_look (s : Session) (link : Link) :
    (s.look link).cancelled = (s.cancelled || link.cancelsAtLook s.calls s.clock) := rfl

@[simp] theorem calls_hideEntry (s : Session) (id : String) : (s.hideEntry id).calls = s.calls :=
  rfl
@[simp] theorem clock_hideEntry (s : Session) (id : String) : (s.hideEntry id).clock = s.clock :=
  rfl
@[simp] theorem events_hideEntry (s : Session) (id : String) :
    (s.hideEntry id).events = s.events ++ [.hidden id] := rfl

@[simp] theorem calls_message (s : Session) (text : String) : (s.message text).calls = s.calls :=
  rfl
@[simp] theorem clock_message (s : Session) (text : String) : (s.message text).clock = s.clock :=
  rfl
@[simp] theorem events_message (s : Session) (text : String) :
    (s.message text).events = s.events ++ [.message text] := rfl

section
variable (s : Session) (link : Link)

@[simp] theorem calls_showEntry (id header name : String) (value count : Nat) :
    (s.showEntry link id header name value count).calls = s.calls := rfl

@[simp] theorem clock_showEntry (id header name : String) (value count : Nat) :
    (s.showEntry link id header name value count).clock = s.clock := rfl

@[simp] theorem events_showEntry (id header name : String) (value count : Nat) :
    (s.showEntry link id header name value count).events =
      s.events ++ [.shown id header name value count] := rfl

/-- At an update the caller is told how often an entry was shown, this time included. -/
theorem cancelled_showEntry (id header name : String) (value count : Nat) :
    (s.showEntry link id header name value count).cancelled =
      (s.cancelled ||
        link.cancelsAtUpdate (s.showEntry link id header name value count).updates) := rfl

@[simp] theorem calls_pause (d : Duration) : (s.pause link d).calls = s.calls := by
  simp only [pause]
  split <;> rfl

@[simp] theorem events_pause (d : Duration) : (s.pause link d).events = s.events := by
  simp only [pause]
  split <;> rfl

theorem cancelled_pause (d : Duration) :
    (s.pause link d).cancelled = (s.cancelled || link.cancelsInPause s.calls s.clock) := by
  simp only [pause]
  cases link.cancelsInPause s.calls s.clock <;> simp [wait, cancelIf]

/-- A pause that is not cut short takes its time. -/
theorem clock_pause (d : Duration) (h : link.cancelsInPause s.calls s.clock = false) :
    (s.pause link d).clock.nanoseconds =
      s.clock.nanoseconds + (link.pauseTime s.calls d).nanoseconds := by
  simp only [pause, h]
  rfl

variable (timeout : Duration) (call : Call)

@[simp] theorem calls_send : (s.send link timeout call).2.calls = s.calls ++ [call] := rfl

@[simp] theorem events_send : (s.send link timeout call).2.events = s.events := rfl

/-- What comes of a request that the caller may cut short: nothing if the caller does. -/
theorem sendUnlessCancelled_fst : (s.sendUnlessCancelled link timeout call).1 =
    if (link.respond s.calls call).cancels then none
    else some (outcome link timeout call (link.respond s.calls call)) := by
  simp only [sendUnlessCancelled]
  split <;> rfl

@[simp] theorem calls_sendUnlessCancelled :
    (s.sendUnlessCancelled link timeout call).2.calls = s.calls ++ [call] := by
  simp only [sendUnlessCancelled]
  split <;> rfl

@[simp] theorem events_sendUnlessCancelled :
    (s.sendUnlessCancelled link timeout call).2.events = s.events := by
  simp only [sendUnlessCancelled]
  split <;> rfl

theorem cancelled_sendUnlessCancelled : (s.sendUnlessCancelled link timeout call).2.cancelled =
    (s.cancelled || (link.respond s.calls call).cancels) := by
  simp only [sendUnlessCancelled]
  split <;> rename_i h <;> simp [h, cancelIf, record, wait, send]

theorem clock_sendUnlessCancelled (h : (link.respond s.calls call).cancels = false) :
    (s.sendUnlessCancelled link timeout call).2.clock.nanoseconds = s.clock.nanoseconds +
      (timeSpent link s.calls timeout (link.respond s.calls call)).nanoseconds := by
  simp only [sendUnlessCancelled, h]
  rfl

end

end Session

/-- A request that was not answered leaves one kind of failure behind. It may have been lost or
have come too late, and either way the service counts as not available. -/
theorem Session.outcome_error (link : Link) (timeout : Duration) (call : Call) (r : Response)
    (e : Error) (h : outcome link timeout call r = .error e) :
    ∃ reason, e = .unavailable reason := by
  cases hanswer : r.answer with
  | reply reply =>
    simp only [outcome, hanswer] at h
    split at h
    · exact ⟨_, (Except.error.inj h).symm⟩
    · cases h
  | unsendable =>
    simp only [outcome, hanswer] at h
    exact ⟨_, (Except.error.inj h).symm⟩
  | lost =>
    simp only [outcome, hanswer] at h
    split at h
    · exact ⟨_, (Except.error.inj h).symm⟩
    · exact ⟨_, (Except.error.inj h).symm⟩
  | silence =>
    simp only [outcome, hanswer] at h
    exact ⟨_, (Except.error.inj h).symm⟩

namespace Client

/-- The address behind a path of the service: that of the base with the path put behind it, as long
as it can be reached. -/
structure IsAddress (c : Client) (path : String) (a : Web.Address) : Prop where
  base_ne : c.baseUrl ≠ ""
  parsed : (Web.Address.parse? (c.baseUrl ++ path)).map Web.Address.withoutCredentials = some a
  reachable : a.isReachable = true

theorem IsAddress.eq {c : Client} {path : String} {a b : Web.Address} (ha : c.IsAddress path a)
    (hb : c.IsAddress path b) : a = b :=
  Option.some.inj (ha.parsed.symm.trans hb.parsed)

/-- The address that a client makes is the one that the text of the base with the path behind it
stands for, as long as requests can be sent there. -/
theorem address_eq_ok_iff (c : Client) (path : String) (a : Web.Address) :
    c.address path = .ok a ↔ c.IsAddress path a := by
  constructor
  · intro h
    simp only [address] at h
    split at h
    · cases h
    · rename_i hbase
      split at h
      · rename_i found hfound
        split at h
        · rename_i hreachable
          obtain rfl := Except.ok.inj h
          exact ⟨by simpa using hbase, hfound, hreachable⟩
        · cases h
      · cases h
  · rintro ⟨hbase, hfound, hreachable⟩
    simp [address, hbase, hfound, hreachable]

theorem address_error (c : Client) (path : String) (e : Error) (h : c.address path = .error e) :
    ∃ reason, e = .unavailable reason := by
  simp only [address] at h
  split at h
  · exact ⟨_, (Except.error.inj h).symm⟩
  · split at h
    · split at h
      · cases h
      · exact ⟨_, (Except.error.inj h).symm⟩
    · exact ⟨_, (Except.error.inj h).symm⟩

/-- The calls that a request makes: one, or none where the client has no address for it. -/
def callsOf (c : Client) (method : Method) (path : String) (body : Option Json) : List Call :=
  match c.address path with
  | .ok a => [⟨method, a, body⟩]
  | .error _ => []

/-- What comes of a request that the caller may cut short, when some requests were sent before: an
answer or a failure, and nothing if the caller does cut it short. -/
def answer? (c : Client) (link : Link) (timeout : Duration) (method : Method) (path : String)
    (body : Option Json) (sent : List Call) : Option (Except Error Reply) :=
  match c.address path with
  | .error e => some (.error e)
  | .ok a =>
    let call : Call := ⟨method, a, body⟩
    let response := link.respond sent call
    if response.cancels then none else some (Session.outcome link timeout call response)

/-- How long such a request takes when it comes to an end: no time where it cannot be sent. -/
def timeTaken (c : Client) (link : Link) (timeout : Duration) (method : Method) (path : String)
    (body : Option Json) (sent : List Call) : Nat :=
  match c.address path with
  | .error _ => 0
  | .ok a =>
    (Session.timeSpent link sent timeout (link.respond sent ⟨method, a, body⟩)).nanoseconds

section
variable (c : Client) (link : Link) (timeout : Duration) (method : Method) (path : String)
  (body : Option Json) (s : Session)

theorem callsOf_ok (a : Web.Address) (h : c.IsAddress path a) :
    c.callsOf method path body = [⟨method, a, body⟩] := by
  simp only [callsOf, (c.address_eq_ok_iff path a).mpr h]

theorem calls_request :
    (c.request link timeout method path body s).2.calls =
      s.calls ++ c.callsOf method path body := by
  cases h : c.address path <;> simp [request, callsOf, h]

theorem events_request : (c.request link timeout method path body s).2.events = s.events := by
  cases h : c.address path <;> simp [request, h]

theorem requestUnlessCancelled_fst :
    (c.requestUnlessCancelled link timeout method path body s).1 =
      c.answer? link timeout method path body s.calls := by
  cases h : c.address path with
  | error e => simp only [requestUnlessCancelled, answer?, h]
  | ok a =>
    simp only [requestUnlessCancelled, answer?, h, Session.sendUnlessCancelled_fst]

theorem calls_requestUnlessCancelled :
    (c.requestUnlessCancelled link timeout method path body s).2.calls =
      s.calls ++ c.callsOf method path body := by
  cases h : c.address path <;> simp [requestUnlessCancelled, callsOf, h]

theorem events_requestUnlessCancelled :
    (c.requestUnlessCancelled link timeout method path body s).2.events = s.events := by
  cases h : c.address path <;> simp [requestUnlessCancelled, h]

/-- A request that comes to an end takes its time. -/
theorem clock_requestUnlessCancelled_of_some (answer : Except Error Reply)
    (h : (c.requestUnlessCancelled link timeout method path body s).1 = some answer) :
    (c.requestUnlessCancelled link timeout method path body s).2.clock.nanoseconds =
      s.clock.nanoseconds + c.timeTaken link timeout method path body s.calls := by
  cases haddress : c.address path with
  | error e => simp [requestUnlessCancelled, timeTaken, haddress]
  | ok a =>
    simp only [requestUnlessCancelled, haddress, Session.sendUnlessCancelled_fst] at h
    simp only [requestUnlessCancelled, timeTaken, haddress]
    apply s.clock_sendUnlessCancelled
    cases hcancels : (link.respond s.calls ⟨method, a, body⟩).cancels with
    | false => rfl
    | true => simp [hcancels] at h

/-- A request that comes to an end was not cut short, so it cancelled nothing. -/
theorem cancelled_requestUnlessCancelled_of_some (answer : Except Error Reply)
    (h : (c.requestUnlessCancelled link timeout method path body s).1 = some answer) :
    (c.requestUnlessCancelled link timeout method path body s).2.cancelled = s.cancelled := by
  cases haddress : c.address path with
  | error e => simp [requestUnlessCancelled, haddress]
  | ok a =>
    simp only [requestUnlessCancelled, haddress, Session.sendUnlessCancelled_fst] at h ⊢
    rw [Session.cancelled_sendUnlessCancelled]
    cases hcancels : (link.respond s.calls ⟨method, a, body⟩).cancels with
    | false => simp
    | true => simp [hcancels] at h

theorem inspect_snd : (c.inspect link method path s).2 =
    (c.request link c.timeouts.status method path none s).2 := by
  simp only [inspect]
  split <;> rename_i h <;> rw [h]

end

end Client

end Subtitling.Service
