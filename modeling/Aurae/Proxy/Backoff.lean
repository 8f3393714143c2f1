import Mathlib

/-!
# The backoff of `do_in_cell!` and the retrying loops it drives

`do_in_cell!` builds one `backoff::ExponentialBackoff` (initial interval 50 ms,
multiplier 10, randomization ±50 %, max interval 3 s, max elapsed time 20 s) and hands
it to its two loops: the dial loop of the macro and `backoff::future::retry` around the
nested call. The crate is not among the sources; `nextBackoff` follows its
`next_backoff`: it refuses (`None`) once more than `max_elapsed_time` has passed since the
strategy was built or reset; otherwise it draws a delay within ±50 % of the current
interval and grows the interval, and refuses after all when the delay would end past
`max_elapsed_time`. Time is in milliseconds and is the world's: each attempt takes what
the world says, each delay is slept in full, and the random draw is the world's too.

* `retryLoop` — the loop shape both loops share (`dialLoop`, `retry` in
  `Aurae.Proxy.DoInCell`): try, and on a retryable outcome sleep the next delay and try
  again, else stop with the outcome;
* `retryLoop_spec` — every attempt but the last had a retryable outcome and was followed
  by a sleep; the loop returns the last outcome; it ran the world's attempts in order; a
  retryable last outcome was refused a delay, within one largest delay of the budget;
* `retryLoop_isSome` — `loopFuel` iterations always suffice: the loop ends on every
  world, because every delay is at least 25 ms;
* `retryLoop_sleeps_le` — a loop on a fresh strategy sleeps at most `maxElapsedTime` in
  all: every delay it sleeps ends within the budget.
-/

namespace Aurae

/-! ## The strategy -/

/-- `with_initial_interval(Duration::from_millis(50))`. -/
def initialInterval : Nat := 50
/-- `with_multiplier(10.0)`. -/
def multiplier : Nat := 10
/-- `with_max_interval(Duration::from_secs(3))`. -/
def maxInterval : Nat := 3000
/-- `with_max_elapsed_time(Some(Duration::from_secs(20)))`. -/
def maxElapsedTime : Nat := 20000

/-- The least delay a draw can give: half the initial interval. -/
def minDelay : Nat := initialInterval / 2
/-- The largest delay a draw can give: the max interval and half of it again. -/
def maxDelay : Nat := maxInterval + maxInterval / 2

/-- The state of a `backoff::ExponentialBackoff`: its current interval, which stays
between the initial and the max interval, and when its clock started. -/
structure ExponentialBackoff where
  currentInterval : Nat
  startTime : Nat
  initial_le : initialInterval ≤ currentInterval
  le_max : currentInterval ≤ maxInterval
  deriving DecidableEq

namespace ExponentialBackoff

/-- `ExponentialBackoffBuilder::build` at time `now`. -/
def build (now : Nat) : ExponentialBackoff := ⟨initialInterval, now, le_rfl, by decide⟩

/-- `Backoff::reset` at time `now`: the interval and the clock start again. -/
def reset (_b : ExponentialBackoff) (now : Nat) : ExponentialBackoff := build now

/-- The randomized delay: `draw` picks it in `[interval / 2, interval * 3 / 2]` (the
intervals are even). -/
def randomize (interval draw : Nat) : Nat := interval - interval / 2 + min draw interval

/-- `increment_current_interval`: times the multiplier, capped at the max interval. -/
def incrementCurrentInterval (b : ExponentialBackoff) : ExponentialBackoff :=
  ⟨min (b.currentInterval * multiplier) maxInterval, b.startTime,
    le_min (le_trans b.initial_le (Nat.le_mul_of_pos_right _ (by decide))) (by decide),
    min_le_right _ _⟩

/-- `Backoff::next_backoff` at time `now`, with the world's random draw. -/
def nextBackoff (b : ExponentialBackoff) (now draw : Nat) : Option Nat × ExponentialBackoff :=
  if maxElapsedTime < now - b.startTime then (none, b)
  else
    let randomized := randomize b.currentInterval draw
    if now - b.startTime + randomized ≤ maxElapsedTime then
      (some randomized, b.incrementCurrentInterval)
    else (none, b.incrementCurrentInterval)

@[simp] theorem incrementCurrentInterval_startTime (b : ExponentialBackoff) :
    b.incrementCurrentInterval.startTime = b.startTime := rfl

theorem randomize_ge {interval : Nat} (draw : Nat) (h : initialInterval ≤ interval) :
    minDelay ≤ randomize interval draw := by
  simp only [randomize, minDelay, initialInterval] at *
  omega

theorem randomize_le {interval : Nat} (draw : Nat) (h : interval ≤ maxInterval) :
    randomize interval draw ≤ maxDelay := by
  simp only [randomize, maxDelay, maxInterval] at *
  omega

/-- What `next_backoff` can answer: the drawn delay when it ends within the budget, and
nothing otherwise, the clock kept either way. -/
theorem nextBackoff_cases (b : ExponentialBackoff) (now draw : Nat) :
    (maxElapsedTime < now - b.startTime + randomize b.currentInterval draw ∧
      ∃ b', b.nextBackoff now draw = (none, b') ∧ b'.startTime = b.startTime) ∨
    (now - b.startTime + randomize b.currentInterval draw ≤ maxElapsedTime ∧
      b.nextBackoff now draw = (some (randomize b.currentInterval draw), b.incrementCurrentInterval)) := by
  unfold nextBackoff
  by_cases hgone : maxElapsedTime < now - b.startTime
  · exact .inl ⟨by omega, b, if_pos hgone, rfl⟩
  rw [if_neg hgone]
  by_cases hin : now - b.startTime + randomize b.currentInterval draw ≤ maxElapsedTime
  · exact .inr ⟨hin, if_pos hin⟩
  · exact .inl ⟨by omega, _, if_neg hin, rfl⟩

/-- A fresh strategy grants a delay to a first attempt when the delay drawn ends within
the budget. -/
theorem nextBackoff_build {now took : Nat} (draw : Nat)
    (h : took + randomize initialInterval draw ≤ maxElapsedTime) :
    (build now).nextBackoff (now + took) draw =
      (some (randomize initialInterval draw), (build now).incrementCurrentInterval) := by
  rcases (build now).nextBackoff_cases (now + took) draw with ⟨hgone, -⟩ | ⟨-, hb⟩
  · simp only [build, Nat.add_sub_cancel_left] at hgone
    omega
  · exact hb

end ExponentialBackoff

/-! ## The retrying loop -/

/-- How a retrying loop ended: the world's state, the outcome it returns, every
attempt's outcome in order, the delays slept between them, the clock, and the
strategy. -/
structure LoopEnd (σ α : Type) where
  state : σ
  outcome : α
  outcomes : List α
  sleeps : List Nat
  now : Nat
  backoff : ExponentialBackoff

/-- The loop both loops of `do_in_cell!` are: run the `k`-th attempt (it takes `took k`
ms); on a retryable outcome ask the strategy for a delay (with the draw `draw k`), sleep
it and try again; stop with the outcome when it is not retryable or the strategy gives
up. `fuel` bounds the iterations; `retryLoop_isSome` shows `loopFuel` never runs out. -/
def retryLoop {σ α : Type} (attempt : Nat → σ → σ × α) (retryable : α → Bool)
    (took draw : Nat → Nat) : (fuel k now : Nat) → ExponentialBackoff → σ → Option (LoopEnd σ α)
  | 0, _, _, _, _ => none
  | fuel + 1, k, now, b, s =>
    if retryable (attempt k s).2 then
      match b.nextBackoff (now + took k) (draw k) with
      | (some d, b') =>
        (retryLoop attempt retryable took draw fuel (k + 1) (now + took k + d) b'
            (attempt k s).1).map fun e =>
          { e with outcomes := (attempt k s).2 :: e.outcomes, sleeps := d :: e.sleeps }
      | (none, b') =>
        some ⟨(attempt k s).1, (attempt k s).2, [(attempt k s).2], [], now + took k, b'⟩
    else some ⟨(attempt k s).1, (attempt k s).2, [(attempt k s).2], [], now + took k, b⟩

/-- Enough iterations for every world: each continued iteration sleeps `minDelay` or
more, and the strategy refuses once `maxElapsedTime` has passed. -/
def loopFuel : Nat := maxElapsedTime / minDelay + 2

/-- The outcomes of `n` successive attempts from the `k`-th on, the world's state
threaded through them. -/
def attempts {σ α : Type} (attempt : Nat → σ → σ × α) : (n k : Nat) → σ → σ × List α
  | 0, _, s => (s, [])
  | n + 1, k, s =>
    let r := attempts attempt n (k + 1) (attempt k s).1
    (r.1, (attempt k s).2 :: r.2)

/-- What a finished loop did, from the `k`-th attempt on the state `s`: it ran the
world's attempts in order, every attempt but the last had a retryable outcome and was
followed by a sleep, it returns the last outcome, and a retryable last outcome was refused
a delay: the budget was spent, or would have been within one largest delay. -/
structure RetryRun {σ α : Type} (attempt : Nat → σ → σ × α) (retryable : α → Bool)
    (k : Nat) (s : σ) (e : LoopEnd σ α) : Prop where
  ran : attempts attempt e.outcomes.length k s = (e.state, e.outcomes)
  outcome_last : e.outcomes.getLast? = some e.outcome
  retried : ∀ r ∈ e.outcomes.dropLast, retryable r = true
  sleeps_length : e.sleeps.length + 1 = e.outcomes.length
  refused : retryable e.outcome = true → maxElapsedTime < e.now - e.backoff.startTime + maxDelay

section Loop

variable {σ α : Type} {attempt : Nat → σ → σ × α} {retryable : α → Bool} {took draw : Nat → Nat}

/-- A loop that stops at its first attempt. -/
theorem RetryRun.single {k : Nat} {s : σ} {now : Nat} {b : ExponentialBackoff}
    (h : retryable (attempt k s).2 = true → maxElapsedTime < now - b.startTime + maxDelay) :
    RetryRun attempt retryable k s ⟨(attempt k s).1, (attempt k s).2, [(attempt k s).2], [], now, b⟩ :=
  ⟨rfl, rfl, by simp, rfl, h⟩

/-- A loop that retried its first attempt after a sleep `d`. -/
theorem RetryRun.cons {k : Nat} {s : σ} {d : Nat} {e : LoopEnd σ α}
    (hr : retryable (attempt k s).2 = true) (he : RetryRun attempt retryable (k + 1) (attempt k s).1 e) :
    RetryRun attempt retryable k s
      { e with outcomes := (attempt k s).2 :: e.outcomes, sleeps := d :: e.sleeps } := by
  have hne : e.outcomes ≠ [] := by
    intro h; have := he.outcome_last; simp [h] at this
  refine ⟨by simp [attempts, he.ran], ?_, ?_, by simp [he.sleeps_length], he.refused⟩
  · rw [List.getLast?_cons, he.outcome_last]; rfl
  · rw [List.dropLast_cons_of_ne_nil hne]
    simpa [hr] using he.retried

/-- An attempt that is not retryable ends the loop at once. -/
theorem retryLoop_of_final {fuel k now : Nat} {b : ExponentialBackoff} {s : σ}
    (h : retryable (attempt k s).2 = false) :
    retryLoop attempt retryable took draw (fuel + 1) k now b s =
      some ⟨(attempt k s).1, (attempt k s).2, [(attempt k s).2], [], now + took k, b⟩ := by
  simp [retryLoop, h]

/-- A retryable attempt that the strategy grants the delay `d` is followed, after `d`, by the
next attempt. -/
theorem retryLoop_of_retry {fuel k now d : Nat} {b b' : ExponentialBackoff} {s : σ}
    (h : retryable (attempt k s).2 = true)
    (hb : b.nextBackoff (now + took k) (draw k) = (some d, b')) :
    retryLoop attempt retryable took draw (fuel + 1) k now b s =
      (retryLoop attempt retryable took draw fuel (k + 1) (now + took k + d) b'
          (attempt k s).1).map fun e =>
        { e with outcomes := (attempt k s).2 :: e.outcomes, sleeps := d :: e.sleeps } := by
  simp only [retryLoop, h, hb, if_true]

/-- A retryable attempt the strategy refuses a delay for ends the loop. -/
theorem retryLoop_of_refused {fuel k now : Nat} {b b' : ExponentialBackoff} {s : σ}
    (h : retryable (attempt k s).2 = true)
    (hb : b.nextBackoff (now + took k) (draw k) = (none, b')) :
    retryLoop attempt retryable took draw (fuel + 1) k now b s =
      some ⟨(attempt k s).1, (attempt k s).2, [(attempt k s).2], [], now + took k, b'⟩ := by
  simp only [retryLoop, h, hb, if_true]

/-- What one iteration of a loop can do: stop on an outcome that is not retryable, stop on a
retryable one when the delay drawn would end past the budget, or sleep that delay and go on
with the interval grown. -/
theorem retryLoop_cases {fuel k now : Nat} {b : ExponentialBackoff} {s : σ} {e : LoopEnd σ α}
    (h : retryLoop attempt retryable took draw (fuel + 1) k now b s = some e) :
    (retryable (attempt k s).2 = false ∧
      e = ⟨(attempt k s).1, (attempt k s).2, [(attempt k s).2], [], now + took k, b⟩) ∨
    (retryable (attempt k s).2 = true ∧
      maxElapsedTime < now + took k - b.startTime + ExponentialBackoff.randomize b.currentInterval (draw k) ∧
      ∃ b', b'.startTime = b.startTime ∧
        e = ⟨(attempt k s).1, (attempt k s).2, [(attempt k s).2], [], now + took k, b'⟩) ∨
    (retryable (attempt k s).2 = true ∧ ∃ e',
      now + took k - b.startTime + ExponentialBackoff.randomize b.currentInterval (draw k) ≤ maxElapsedTime ∧
      retryLoop attempt retryable took draw fuel (k + 1)
          (now + took k + ExponentialBackoff.randomize b.currentInterval (draw k)) b.incrementCurrentInterval
          (attempt k s).1 = some e' ∧
      e = { e' with
        outcomes := (attempt k s).2 :: e'.outcomes
        sleeps := ExponentialBackoff.randomize b.currentInterval (draw k) :: e'.sleeps }) := by
  cases hr : retryable (attempt k s).2
  · rw [retryLoop_of_final hr] at h
    exact .inl ⟨rfl, (Option.some.inj h).symm⟩
  · rcases b.nextBackoff_cases (now + took k) (draw k) with ⟨hgone, b', hb, hstart⟩ | ⟨hin, hb⟩
    · rw [retryLoop_of_refused hr hb] at h
      exact .inr (.inl ⟨rfl, hgone, b', hstart, (Option.some.inj h).symm⟩)
    · rw [retryLoop_of_retry hr hb] at h
      obtain ⟨e', he', rfl⟩ := Option.map_eq_some'.mp h
      exact .inr (.inr ⟨rfl, e', hin, he', rfl⟩)

/-- A property of the world's state that every attempt keeps holds after any number of
attempts. -/
theorem attempts_state {P : σ → Prop} (hP : ∀ k s, P s → P (attempt k s).1) :
    ∀ {n k : Nat} {s : σ}, P s → P (attempts attempt n k s).1
  | 0, _, _, hs => hs
  | n + 1, k, s, hs => attempts_state hP (n := n) (k := k + 1) (hP k s hs)

theorem RetryRun.state {k : Nat} {s : σ} {e : LoopEnd σ α} {P : σ → Prop}
    (he : RetryRun attempt retryable k s e) (hP : ∀ k s, P s → P (attempt k s).1) (hs : P s) :
    P e.state := by
  have := attempts_state hP (n := e.outcomes.length) (k := k) hs
  rwa [he.ran] at this

/-- **The loop's control flow.** Whatever the world answers, a finished loop ran the
world's attempts in order and retried exactly the retryable outcomes the strategy gave
a delay for. -/
theorem retryLoop_spec : ∀ {fuel k now : Nat} {b : ExponentialBackoff} {s : σ} {e : LoopEnd σ α},
    retryLoop attempt retryable took draw fuel k now b s = some e →
      RetryRun attempt retryable k s e
  | 0, _, _, _, _, _, h => by cases h
  | fuel + 1, k, now, b, s, e, h => by
    rcases retryLoop_cases h with
      ⟨hr, rfl⟩ | ⟨-, hgone, b', hstart, rfl⟩ | ⟨hr, e', -, he', rfl⟩
    · exact .single fun h => absurd h (by simp [hr])
    · have := ExponentialBackoff.randomize_le (draw k) b.le_max
      exact .single fun _ => by omega
    · exact .cons hr (retryLoop_spec he')

/-- **The loop ends.** With `minDelay` left to sleep in each remaining iteration beyond
the budget, the fuel cannot run out: every continued iteration sleeps `minDelay` or more,
and the strategy grants no delay past `maxElapsedTime`. -/
theorem retryLoop_isSome : ∀ {fuel k now : Nat} {b : ExponentialBackoff} {s : σ},
    b.startTime ≤ now → maxElapsedTime < now - b.startTime + minDelay * fuel →
      (retryLoop attempt retryable took draw (fuel + 1) k now b s).isSome
  | fuel, k, now, b, s, hle, hbudget => by
    unfold retryLoop
    split
    · rcases b.nextBackoff_cases (now + took k) (draw k) with ⟨-, b', hb, -⟩ | ⟨hin, hb⟩ <;>
        rw [hb]
      · rfl
      · have hd := ExponentialBackoff.randomize_ge (draw k) b.initial_le
        cases fuel with
        | zero => simp only [Nat.mul_zero, Nat.add_zero] at hbudget; omega
        | succ fuel =>
          simp only [Option.isSome_map']
          refine retryLoop_isSome ?_ ?_ <;> rw [ExponentialBackoff.incrementCurrentInterval_startTime]
          · omega
          · rw [Nat.mul_succ] at hbudget; omega
    · rfl

/-- A loop makes at most as many attempts as it has fuel. -/
theorem retryLoop_length_le : ∀ {fuel k now : Nat} {b : ExponentialBackoff} {s : σ}
    {e : LoopEnd σ α}, retryLoop attempt retryable took draw fuel k now b s = some e →
      e.outcomes.length ≤ fuel
  | 0, _, _, _, _, _, h => by cases h
  | fuel + 1, k, now, b, s, e, h => by
    rcases retryLoop_cases h with ⟨-, rfl⟩ | ⟨-, -, b', -, rfl⟩ | ⟨-, e', -, he', rfl⟩
    · simp
    · simp
    · simpa using retryLoop_length_le he'

/-- `loopFuel` suffices for a loop that starts on a fresh strategy. -/
theorem retryLoop_loopFuel_isSome {k now : Nat} {s : σ} :
    (retryLoop attempt retryable took draw loopFuel k now (.build now) s).isSome :=
  retryLoop_isSome (Nat.le_refl now) (by
    show maxElapsedTime < now - now + minDelay * (maxElapsedTime / minDelay + 1)
    rw [Nat.sub_self, Nat.zero_add]; decide)

/-- **The sleeps of a loop.** A loop entered with `now - startTime` already elapsed sleeps
at most what is left of the budget: each delay it sleeps ends within it. -/
theorem retryLoop_sleeps : ∀ {fuel k now : Nat} {b : ExponentialBackoff} {s : σ}
    {e : LoopEnd σ α}, b.startTime ≤ now →
      retryLoop attempt retryable took draw fuel k now b s = some e →
      e.sleeps.sum ≤ maxElapsedTime - (now - b.startTime)
  | 0, _, _, _, _, _, _, h => by cases h
  | fuel + 1, k, now, b, s, e, hle, h => by
    rcases retryLoop_cases h with ⟨-, rfl⟩ | ⟨-, -, b', -, rfl⟩ | ⟨-, e', hin, he', rfl⟩
    · exact Nat.zero_le _
    · exact Nat.zero_le _
    · have ih := retryLoop_sleeps
        (by rw [ExponentialBackoff.incrementCurrentInterval_startTime]; omega) he'
      rw [ExponentialBackoff.incrementCurrentInterval_startTime] at ih
      simp only [List.sum_cons]
      omega

/-- A loop on a fresh strategy sleeps at most `maxElapsedTime` in all. -/
theorem retryLoop_sleeps_le {fuel k now : Nat} {s : σ} {e : LoopEnd σ α}
    (h : retryLoop attempt retryable took draw fuel k now (.build now) s = some e) :
    e.sleeps.sum ≤ maxElapsedTime := by
  have := retryLoop_sleeps (Nat.le_refl now) h
  simpa [ExponentialBackoff.build] using this

end Loop

end Aurae
