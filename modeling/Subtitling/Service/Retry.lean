/-!
Why the service gave no translated lines, and retrying with growing pauses. A call is repeated as
long as its failure is worth another attempt and attempts are left; only a reply that asks to come
back later, or that tells of a fault on the other side, is worth one. When the attempts run out, the
last failure becomes one of availability. Pauses grow by a constant factor and stop growing at the
greatest duration there is. How long a pause really lasts is up to the timer.
-/

namespace Subtitling.Service

inductive Error
  /-- The service could not be reached, or never recovered. -/
  | unavailable (reason : String)
  | rateLimited (message : String)
  | serverFault (status : Nat)
  /-- Any other status that is no success. -/
  | refused (status : Nat) (message : String)
  | malformed (detail : String)
  | missingJobId
  | jobFailed (reason : String)
  /-- The job was cancelled on the side of the service. -/
  | jobCancelled
  | timedOut (seconds : Nat)
  /-- The caller stopped waiting. -/
  | cancelled
deriving DecidableEq

def Error.message : Error → String
  | .unavailable reason => "Translation service unavailable: " ++ reason
  | .rateLimited message => "Rate limit exceeded: " ++ message
  | .serverFault status => "Server error: " ++ toString status
  | .refused status message =>
    "API responded with error: " ++ toString status ++ " - " ++ message
  | .malformed detail => "Malformed response: " ++ detail
  | .missingJobId => "No jobId returned from translation service"
  | .jobFailed reason => "Translation job failed: " ++ reason
  | .jobCancelled => "Translation job was cancelled"
  | .timedOut seconds => "Translation timed out after " ++ toString seconds ++ " seconds"
  | .cancelled => "Translation wait was cancelled by the caller"

def Error.isRetryable : Error → Bool
  | .rateLimited _ => true
  | .serverFault _ => true
  | _ => false

structure Duration where
  nanoseconds : Nat
deriving DecidableEq

namespace Duration

def ofSeconds (n : Nat) : Duration := ⟨n * 1000000000⟩

def ofMilliseconds (n : Nat) : Duration := ⟨n * 1000000⟩

/-- The greatest duration: its seconds fill 64 bits. -/
def max : Duration := ⟨Nat.pow 2 64 * 1000000000 - 1⟩

def seconds (d : Duration) : Nat := d.nanoseconds / 1000000000

def subseconds (d : Duration) : Nat := d.nanoseconds % 1000000000

/-- A multiple, or the greatest duration where that would be greater. -/
def scale (d : Duration) (n : Nat) : Duration := ⟨min (d.nanoseconds * n) max.nanoseconds⟩

end Duration

structure RetryPolicy where
  /-- Attempts in all, of which there is always one. -/
  attempts : Nat
  /-- The pause before the second attempt. -/
  base : Duration
  /-- By what the pause grows. -/
  factor : Nat
  /-- The most that chance may add to a pause. -/
  maxJitter : Duration
deriving DecidableEq

namespace RetryPolicy

def standard : RetryPolicy := ⟨3, .ofSeconds 1, 2, .ofSeconds 1⟩

def immediate (attempts : Nat) : RetryPolicy := ⟨attempts, .ofSeconds 0, 1, .ofSeconds 0⟩

def maxMultiplier : Nat := Nat.pow 2 32 - 1

/-- A power up to the greatest multiplier; from the exponent 32 on it no longer depends on it. -/
def multiplier (factor n : Nat) : Nat := min (Nat.pow factor (min n 32)) maxMultiplier

/-- The pause before retry number `retry`, counted from one, without what chance adds. -/
def backoff (p : RetryPolicy) (retry : Nat) :
    Duration := p.base.scale (multiplier p.factor (retry - 1))

/-- The pause when chance draws `drawn`. -/
def delay (p : RetryPolicy) (drawn : Duration) (retry : Nat) : Duration :=
  ⟨(p.backoff retry).nanoseconds + min drawn.nanoseconds p.maxJitter.nanoseconds⟩

/-- The failure that stands when no attempts are left. -/
def giveUp (e : Error) (attempts : Nat) : Error :=
  .unavailable (e.message ++ " (gave up after " ++ toString attempts ++ " attempts)")

/-- Attempt number `n` and up to `left` more. The state is whatever calls and pauses act on. -/
def attemptFrom {σ α : Type} (pause : Nat → σ → σ) (call : σ → Except Error α × σ) (n : Nat) :
    Nat → σ → Except Error α × σ
  | left, s =>
    match call s with
    | (.ok a, s) => (.ok a, s)
    | (.error e, s) =>
      if e.isRetryable then
        match left with
        | 0 => (.error (giveUp e n), s)
        | left + 1 => attemptFrom pause call (n + 1) left (pause n s)
      else (.error e, s)

/-- Calls until something else than a failure worth another attempt comes of it, or no attempts are
left. `pause` is told the number of the retry that follows. -/
def run {σ α : Type} (p : RetryPolicy) (pause : Nat → σ → σ) (call : σ → Except Error α × σ)
    (s : σ) :
    Except Error α × σ :=
  attemptFrom pause call 1 (max p.attempts 1 - 1) s

end RetryPolicy

end Subtitling.Service
