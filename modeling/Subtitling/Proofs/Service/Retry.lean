import Mathlib.Algebra.Group.Nat.Defs
import Subtitling.Service.Retry

/-!
Runs of attempts. An attempt that does not fail, or fails for good, ends the run with what came of
it; a failure worth another attempt leads to the next one or, where none is left, to giving up. So a
run is decided by its last attempt: the first that asks for no other, or else the last there is.
The pauses that are asked for grow up to the greatest duration, whatever timer they are made with.
-/

namespace Subtitling.Service

/-- An outcome that asks for another attempt: there were too many requests, or the service
failed. -/
def AsksAgain {α : Type} (outcome : Except Error α) : Prop :=
  (∃ message, outcome = .error (.rateLimited message)) ∨
    ∃ status, outcome = .error (.serverFault status)

theorem asksAgain_iff {α : Type} (outcome : Except Error α) :
    AsksAgain outcome ↔ ∃ e, outcome = .error e ∧ e.isRetryable = true := by
  constructor
  · rintro (⟨message, rfl⟩ | ⟨status, rfl⟩)
    · exact ⟨_, rfl, rfl⟩
    · exact ⟨_, rfl, rfl⟩
  · rintro ⟨e, rfl, hretry⟩
    cases e with
    | rateLimited message => exact .inl ⟨message, rfl⟩
    | serverFault status => exact .inr ⟨status, rfl⟩
    | _ => cases hretry

/-- What asks for no other attempt is no failure, or one for good. -/
theorem final_of_not_asksAgain {α : Type} (outcome : Except Error α) (h : ¬ AsksAgain outcome) :
    ∀ e, outcome = .error e → e.isRetryable = false := by
  intro e he
  rw [asksAgain_iff] at h
  exact Bool.eq_false_iff.mpr fun hretry => h ⟨e, he, hretry⟩

namespace RetryPolicy

section
variable {σ α : Type} (pause : Nat → σ → σ) (call : σ → Except Error α × σ) (n left : Nat) (s : σ)

theorem attemptFrom_of_final (h : ∀ e, (call s).1 = .error e → e.isRetryable = false) :
    attemptFrom pause call n left s = call s := by
  unfold attemptFrom
  cases hcall : call s with
  | mk result t =>
    cases result with
    | ok a => rfl
    | error e =>
      have hfinal := h e (by rw [hcall])
      simp only [hfinal, Bool.false_eq_true, if_false]

section
variable (e : Error) (h : (call s).1 = .error e) (hretry : e.isRetryable = true)
include h hretry

theorem attemptFrom_zero : attemptFrom pause call n 0 s = (.error (giveUp e n), (call s).2) := by
  unfold attemptFrom
  cases hcall : call s with
  | mk result t =>
    rw [hcall] at h
    obtain rfl : result = .error e := h
    simp only [hretry, if_true]

theorem attemptFrom_succ : attemptFrom pause call n (left + 1) s =
    attemptFrom pause call (n + 1) left (pause n (call s).2) := by
  rw [attemptFrom]
  cases hcall : call s with
  | mk result t =>
    rw [hcall] at h
    obtain rfl : result = .error e := h
    simp only [hretry, if_true]

end

/-- The state that is reached after `k` more attempts, with a pause behind each. -/
def reached (pause : Nat → σ → σ) (call : σ → Except Error α × σ) : Nat → σ → Nat → σ
  | _, s, 0 => s
  | n, s, k + 1 => reached pause call (n + 1) (pause n (call s).2) k

/-- A run ends with the first attempt that asks for no other, or else with the last there is. All
attempts before it asked for another one and were followed by a pause, which is how the state of
the deciding one was reached. -/
theorem attemptFrom_decided :
    ∃ k ≤ left, (∀ i < k, AsksAgain (call (reached pause call n s i)).1) ∧
      (¬ AsksAgain (call (reached pause call n s k)).1 ∧
          attemptFrom pause call n left s = call (reached pause call n s k) ∨
        k = left ∧ ∃ e, (call (reached pause call n s k)).1 = .error e ∧ e.isRetryable = true ∧
          attemptFrom pause call n left s =
            (.error (giveUp e (n + k)), (call (reached pause call n s k)).2)) := by
  induction left generalizing n s with
  | zero =>
    refine ⟨0, Nat.le_refl 0, nofun, ?_⟩
    by_cases hagain : AsksAgain (call s).1
    · obtain ⟨e, he, hretry⟩ := (asksAgain_iff _).mp hagain
      exact .inr ⟨rfl, e, he, hretry, attemptFrom_zero pause call n s e he hretry⟩
    · exact .inl ⟨hagain, attemptFrom_of_final pause call n 0 s (final_of_not_asksAgain _ hagain)⟩
  | succ left ih =>
    by_cases hagain : AsksAgain (call s).1
    · obtain ⟨e, he, hretry⟩ := (asksAgain_iff _).mp hagain
      obtain ⟨k, hk, hbefore, hends⟩ := ih (n + 1) (pause n (call s).2)
      refine ⟨k + 1, Nat.succ_le_succ hk, fun i hi => ?_, ?_⟩
      · cases i with
        | zero => exact hagain
        | succ i => exact hbefore i (by omega)
      · rw [attemptFrom_succ pause call n left s e he hretry, Nat.add_left_inj,
          show n + (k + 1) = n + 1 + k by omega]
        exact hends
    · have hfinal := final_of_not_asksAgain _ hagain
      exact ⟨0, Nat.zero_le _, nofun, .inl ⟨hagain, attemptFrom_of_final pause call n _ s hfinal⟩⟩

/-- The same attempts, told by a counter of 32 bits that starts at one and is compared with the
number of attempts before it is raised. -/
def countedFrom (attempts : UInt32) (pause : UInt32 → σ → σ) (call : σ → Except Error α × σ)
    (n : UInt32) (s : σ) : Except Error α × σ :=
  match call s with
  | (.ok a, s) => (.ok a, s)
  | (.error e, s) =>
    if e.isRetryable = true ∧ n < attempts then
      countedFrom attempts pause call (n + 1) (pause n s)
    else if e.isRetryable then (.error (giveUp e n.toNat), s)
    else (.error e, s)
termination_by attempts.toNat - n.toNat
decreasing_by
  rename_i hmore
  obtain ⟨-, hless⟩ := hmore
  rw [UInt32.lt_iff_toNat_lt] at hless
  have hbound := attempts.toNat_lt
  rw [UInt32.toNat_add]
  simp only [UInt32.reduceToNat]
  omega

/-- The counter never goes round, so it makes no difference that it could. It counts up to the
number of attempts, which is itself one of 32 bits, so the sum is never more than that. -/
theorem countedFrom_eq (attempts n : UInt32) (h : n ≤ attempts) :
    countedFrom attempts (fun n => pause n.toNat) call n s =
      attemptFrom pause call n.toNat (attempts.toNat - n.toNat) s := by
  rw [UInt32.le_iff_toNat_le] at h
  obtain ⟨left, hleft⟩ := Nat.exists_eq_add_of_le h
  induction left generalizing n s with
  | zero =>
    have hlast : ¬ n < attempts := by
      rw [UInt32.lt_iff_toNat_lt]
      omega
    rw [countedFrom, show attempts.toNat - n.toNat = 0 by omega, attemptFrom]
    cases call s with
    | mk result t =>
      cases result with
      | ok a => rfl
      | error e => simp only [hlast, and_false, if_false]
  | succ left ih =>
    have hless : n < attempts := by
      rw [UInt32.lt_iff_toNat_lt]
      omega
    have hnext : (n + 1).toNat = n.toNat + 1 := by
      have hbound := attempts.toNat_lt
      rw [UInt32.toNat_add]
      simp only [UInt32.reduceToNat]
      omega
    rw [countedFrom, show attempts.toNat - n.toNat = left + 1 by omega, attemptFrom]
    cases call s with
    | mk result t =>
      cases result with
      | ok a => rfl
      | error e =>
        simp only [hless, and_true]
        split
        · rw [ih _ (n + 1) (by omega) (by omega), hnext,
            show attempts.toNat - (n.toNat + 1) = left by omega]
        · rfl

end

/-- From the exponent 32 on a power is one of nothing, of one, or beyond the greatest multiplier. -/
theorem multiplier_eq (factor n : Nat) : multiplier factor n = min (factor ^ n) (2 ^ 32 - 1) := by
  have hpower : Nat.pow factor (min n 32) = factor ^ min n 32 := rfl
  have hmax : maxMultiplier = 2 ^ 32 - 1 := rfl
  rw [multiplier, hpower, hmax]
  rcases Nat.le_total n 32 with hn | hn
  · rw [Nat.min_eq_left hn]
  · rw [Nat.min_eq_right hn]
    match factor with
    | 0 => rw [Nat.zero_pow (by decide), Nat.zero_pow (by omega)]
    | 1 => rw [Nat.one_pow, Nat.one_pow]
    | factor + 2 =>
      have hbase : 2 ^ 32 ≤ (factor + 2) ^ 32 := Nat.pow_le_pow_left (by omega) 32
      have hgrown : (factor + 2) ^ 32 ≤ (factor + 2) ^ n := Nat.pow_le_pow_right (by omega) hn
      omega

variable (p : RetryPolicy)

def pauseAfter (i : Nat) : Duration :=
  ⟨min (p.base.nanoseconds * min (p.factor ^ i) (2 ^ 32 - 1)) (2 ^ 64 * 1000000000 - 1)⟩

theorem backoff_eq (i : Nat) : p.backoff (i + 1) = p.pauseAfter i := by
  rw [backoff, Duration.scale, multiplier_eq, Nat.add_sub_cancel]
  rfl

/-- Pauses do not shrink, but for a factor of nothing. -/
theorem pauseAfter_le (hfactor : 1 ≤ p.factor) (i j : Nat) (h : i ≤ j) :
    (p.pauseAfter i).nanoseconds ≤ (p.pauseAfter j).nanoseconds := by
  have hpower : p.factor ^ i ≤ p.factor ^ j := Nat.pow_le_pow_right hfactor h
  have hmultiple : p.base.nanoseconds * min (p.factor ^ i) (2 ^ 32 - 1) ≤
      p.base.nanoseconds * min (p.factor ^ j) (2 ^ 32 - 1) := Nat.mul_le_mul_left _ (by omega)
  simp only [pauseAfter]
  omega

/-- What chance may draw: whole milliseconds, and no more than the policy allows. -/
def CanDraw (drawn : Duration) : Prop :=
  ∃ count, drawn = .ofMilliseconds count ∧ drawn.nanoseconds ≤ p.maxJitter.nanoseconds

/-- Where less than a millisecond is allowed, chance adds nothing. -/
theorem delay_eq (hsteady : p.maxJitter.nanoseconds < 1000000) (drawn : Duration)
    (hdrawn : p.CanDraw drawn) (i : Nat) : p.delay drawn (i + 1) = p.pauseAfter i := by
  obtain ⟨count, rfl, hfew⟩ := hdrawn
  have hnothing : min (Duration.ofMilliseconds count).nanoseconds p.maxJitter.nanoseconds = 0 := by
    simp only [Duration.ofMilliseconds] at hfew ⊢
    omega
  rw [delay, hnothing, backoff_eq, Nat.add_zero]

/-- A pause has the time that it is asked to take, and the time that it lasts. -/
inductive Act
  | call
  | pause (asked lasts : Duration)
deriving DecidableEq

section
variable {α : Type} (timer : Nat → Duration → Duration) (drawn : Nat → Duration)
  (outcomes : Nat → Except Error α)

/-- A call whose outcome depends only on how many there were before. -/
def callOf (acts : List Act) : Except Error α × List Act :=
  (outcomes (acts.count .call), acts ++ [.call])

/-- The pause before a retry, which lasts as long as the timer takes. -/
def pauseOf (retry : Nat) (acts : List Act) : List Act :=
  let asked := p.delay (drawn retry) retry
  acts ++ [.pause asked (timer retry asked)]

def pausedCalls (count : Nat) : List Act :=
  (List.range count).flatMap fun i =>
    [.call, .pause (p.pauseAfter i) (timer (i + 1) (p.pauseAfter i))]

theorem pausedCalls_succ (count : Nat) : p.pausedCalls timer (count + 1) =
    p.pausedCalls timer count ++
      [.call, .pause (p.pauseAfter count) (timer (count + 1) (p.pauseAfter count))] := by
  rw [pausedCalls, List.range_succ, List.flatMap_append, List.flatMap_singleton]
  rfl

theorem count_pausedCalls (count : Nat) : (p.pausedCalls timer count).count .call = count := by
  induction count with
  | zero => rfl
  | succ count ih =>
    rw [pausedCalls_succ, List.count_append, ih]
    rfl

theorem callOf_pausedCalls (count : Nat) : callOf outcomes (p.pausedCalls timer count) =
    (outcomes count, p.pausedCalls timer count ++ [.call]) := by
  rw [callOf, count_pausedCalls]

variable (hsteady : p.maxJitter.nanoseconds < 1000000) (hdrawn : ∀ retry, p.CanDraw (drawn retry))
include hsteady hdrawn

theorem reached_pausedCalls (count more : Nat) :
    reached (p.pauseOf timer drawn) (callOf outcomes) (count + 1) (p.pausedCalls timer count) more =
      p.pausedCalls timer (count + more) := by
  induction more generalizing count with
  | zero => rfl
  | succ more ih =>
    have hpause : p.pauseOf timer drawn (count + 1) (p.pausedCalls timer count ++ [.call]) =
        p.pausedCalls timer (count + 1) := by
      rw [pauseOf, p.delay_eq hsteady _ (hdrawn _), pausedCalls_succ, List.append_assoc]
      rfl
    rw [reached, callOf_pausedCalls, hpause, ih, Nat.add_right_comm, Nat.add_assoc]

/-- A run is its calls up to the deciding one, with a pause behind each but that. -/
theorem run_pausedCalls : ∃ k < max p.attempts 1, (∀ i < k, AsksAgain (outcomes i)) ∧
    (¬ AsksAgain (outcomes k) ∧ p.run (p.pauseOf timer drawn) (callOf outcomes) [] =
        (outcomes k, p.pausedCalls timer k ++ [.call]) ∨
      k + 1 = max p.attempts 1 ∧ ∃ e, outcomes k = .error e ∧ e.isRetryable = true ∧
        p.run (p.pauseOf timer drawn) (callOf outcomes) [] =
          (.error (giveUp e (k + 1)), p.pausedCalls timer k ++ [.call])) := by
  obtain ⟨k, hk, hbefore, hends⟩ :=
    attemptFrom_decided (p.pauseOf timer drawn) (callOf outcomes) 1 (max p.attempts 1 - 1) []
  have hreached (i : Nat) : callOf outcomes
    (reached (p.pauseOf timer drawn) (callOf outcomes) 1 [] i) =
      (outcomes i, p.pausedCalls timer i ++ [.call]) := by
    have hi := p.reached_pausedCalls timer drawn outcomes hsteady hdrawn 0 i
    rw [Nat.zero_add, Nat.zero_add] at hi
    change reached (p.pauseOf timer drawn) (callOf outcomes) 1 [] i = p.pausedCalls timer i at hi
    rw [hi, callOf_pausedCalls]
  simp only [hreached] at hbefore hends
  refine ⟨k, by omega, hbefore, ?_⟩
  rcases hends with hfinal | ⟨hlast, e, he, hretry, hrun⟩
  · exact .inl hfinal
  · rw [Nat.add_comm 1 k] at hrun
    exact .inr ⟨by omega, e, he, hretry, hrun⟩

end

/-- A run ends with the first outcome that asks for no other attempt, or gives up with the last
attempt there is. Between two calls is exactly the pause that the policy says, capped at the
greatest duration, no call follows the deciding one, pauses never shrink where the factor is one at
least, and no counter of attempts goes round. All this holds for any timer. -/
theorem run_ends_with_deciding_call {α : Type} (timer : Nat → Duration → Duration)
    (drawn : Nat → Duration) (outcomes : Nat → Except Error α)
    (hsteady : p.maxJitter.nanoseconds < 1000000) (hdrawn : ∀ retry, p.CanDraw (drawn retry)) :
    (∃ k < max p.attempts 1, (∀ i < k, AsksAgain (outcomes i)) ∧
      (p.run (p.pauseOf timer drawn) (callOf outcomes) []).2 = p.pausedCalls timer k ++ [.call] ∧
      (¬ AsksAgain (outcomes k) ∧
          (p.run (p.pauseOf timer drawn) (callOf outcomes) []).1 = outcomes k ∨
        k + 1 = max p.attempts 1 ∧ AsksAgain (outcomes k) ∧ ∃ e, outcomes k = .error e ∧
          (p.run (p.pauseOf timer drawn) (callOf outcomes) []).1 =
            .error (.unavailable (e.message ++ " (gave up after " ++
              toString (max p.attempts 1) ++ " attempts)")))) ∧
      (1 ≤ p.factor → ∀ i j, i ≤ j →
        (p.pauseAfter i).nanoseconds ≤ (p.pauseAfter j).nanoseconds) ∧
      ∀ attempts : UInt32, attempts.toNat = p.attempts →
        countedFrom (max attempts 1) (fun n => p.pauseOf timer drawn n.toNat) (callOf outcomes)
            1 [] =
          p.run (p.pauseOf timer drawn) (callOf outcomes) [] := by
  refine ⟨?_, p.pauseAfter_le, fun attempts hattempts => ?_⟩
  · obtain ⟨k, hk, hbefore, ⟨hfinal, hrun⟩ | ⟨hlast, e, he, hretry, hrun⟩⟩ :=
      p.run_pausedCalls timer drawn outcomes hsteady hdrawn
    · exact ⟨k, hk, hbefore, by rw [hrun], .inl ⟨hfinal, by rw [hrun]⟩⟩
    · have hagain : AsksAgain (outcomes k) := (asksAgain_iff _).mpr ⟨e, he, hretry⟩
      rw [hlast] at hrun
      exact ⟨k, hk, hbefore, by rw [hrun], .inr ⟨hlast, hagain, e, he, by rw [hrun, giveUp]⟩⟩
  · have hmax : (max attempts 1).toNat = max p.attempts 1 := by
      rw [← hattempts, show max attempts 1 = if attempts ≤ 1 then 1 else attempts from rfl]
      split
      · rename_i hfew
        exact (Nat.max_eq_right (UInt32.le_iff_toNat_le.mp hfew)).symm
      · rename_i hmany
        rw [UInt32.le_iff_toNat_le, Nat.not_le] at hmany
        exact (Nat.max_eq_left (Nat.le_of_lt hmany)).symm
    have hone : (1 : UInt32) ≤ max attempts 1 := by
      rw [UInt32.le_iff_toNat_le, hmax]
      exact Nat.le_max_right p.attempts 1
    rw [countedFrom_eq _ _ _ _ _ hone, hmax]
    rfl

/-- An overloaded service that recovers at the second attempt. -/
def recovering (i : Nat) : Except Error Nat :=
  if i = 0 then .error (.rateLimited "slow") else .ok 1

/-- A timer that goes off at whole milliseconds only. -/
def coarse (_ : Nat) (d : Duration) : Duration :=
  .ofMilliseconds ((d.nanoseconds + 999999) / 1000000)

/-- A policy that asks for pauses of a millisecond and a half. -/
def brisk : RetryPolicy := ⟨2, ⟨1500000⟩, 1, .ofSeconds 0⟩

/-- One retry, after the pause that the policy asks for, however coarse the timer is. -/
theorem run_ends_with_deciding_call_brisk :
    let run := brisk.run (brisk.pauseOf coarse fun _ => .ofSeconds 0) (callOf recovering) []
    brisk.maxJitter.nanoseconds < 1000000 ∧ brisk.CanDraw (.ofSeconds 0) ∧
      (∃ k < max brisk.attempts 1, (∀ i < k, AsksAgain (recovering i)) ∧
        run.2 = brisk.pausedCalls coarse k ++ [.call] ∧
        (¬ AsksAgain (recovering k) ∧ run.1 = recovering k ∨
          k + 1 = max brisk.attempts 1 ∧ AsksAgain (recovering k) ∧ ∃ e,
            recovering k = .error e ∧
              run.1 = .error (.unavailable (e.message ++ " (gave up after " ++
                toString (max brisk.attempts 1) ++ " attempts)")))) ∧
      (brisk.pauseAfter 0).nanoseconds ≤ (brisk.pauseAfter 1).nanoseconds ∧
      countedFrom (max 2 1) (fun n => brisk.pauseOf coarse (fun _ => .ofSeconds 0) n.toNat)
          (callOf recovering) 1 [] = run ∧
      run = (.ok 1, [.call, .pause ⟨1500000⟩ (.ofMilliseconds 2), .call]) := by
  intro run
  have hnothing : brisk.CanDraw (.ofSeconds 0) := ⟨0, rfl, Nat.zero_le _⟩
  obtain ⟨hends, hgrows, hcounted⟩ := brisk.run_ends_with_deciding_call coarse
    (fun _ => .ofSeconds 0) recovering (by decide) fun _ => hnothing
  exact ⟨by decide, hnothing, hends, hgrows (by decide) 0 1 (by decide), hcounted 2 rfl, rfl⟩

end RetryPolicy

end Subtitling.Service
