import Mathlib.Algebra.Order.Ring.Rat
import Mathlib.Algebra.Group.Basic

/-!
# The `retry` decorator of the output uploaders

`retry(max_retries, initial_delay, backoff_factor, exceptions)` wraps a coroutine in a loop of `max_retries` attempts:
an attempt that returns ends the loop with its value, one that raises anything but `exceptions` re-raises at once, and
one that raises `exceptions` re-raises on the last attempt and otherwise sleeps `delay` and multiplies it by
`backoff_factor`. Delays are rationals here (floats in the source).

With `max_retries = 0` the loop body never runs and the wrapper falls off its end: it returns `None` without calling the
coroutine (`retry_zero`). From one attempt on, it does what its callers rely on (`retry_spec`): it calls the coroutine
until the first outcome that is not a retried exception or until `max_retries` calls, returns or re-raises the last
call's outcome, and sleeps `initial_delay · backoff_factor ^ j` between call `j + 1` and call `j + 2`, never after the
last call.
-/

namespace ComputeHorde

/-- What one call of the wrapped coroutine does: return a value or raise an exception. -/
inductive Outcome (α ε : Type) where
  | returned (v : α)
  | raised (e : ε)
  deriving DecidableEq, Repr

/-- What the wrapper does that a caller can observe besides its result: call the coroutine, or sleep. -/
inductive RetryEvent where
  | call
  | sleep (delay : ℚ)
  deriving DecidableEq, Repr

section Retry

variable {α ε : Type} (outcomes : Nat → Outcome α ε) (retried : ε → Bool)

/-- The `for i in range(max_retries)` loop of `retry`'s wrapper, with `remaining` iterations left, at iteration `i`, with
`delay` the next sleep; `outcomes j` is what the coroutine's call number `j` (from 0) does. The wrapper's result is
`returned none` when the loop ends without a `return` (Python's implicit `None`), `returned (some v)` when it returns
the value `v` of a call. -/
def retryLoop (maxRetries : Nat) (backoffFactor : ℚ) :
    (remaining i : Nat) → (delay : ℚ) → List RetryEvent × Outcome (Option α) ε
  | 0, _, _ => ([], .returned none)
  | remaining + 1, i, delay =>
    match outcomes i with
    | .returned v => ([.call], .returned (some v))
    | .raised e =>
      if retried e then
        if i = maxRetries - 1 then ([.call], .raised e)
        else
          let rest := retryLoop maxRetries backoffFactor remaining (i + 1) (delay * backoffFactor)
          (.call :: .sleep delay :: rest.1, rest.2)
      else ([.call], .raised e)

/-- The coroutine `retry(max_retries, initial_delay, backoff_factor, exceptions)` makes of a coroutine: `retried e`
says whether `e` is an instance of `exceptions`. -/
def retry (maxRetries : Nat) (initialDelay backoffFactor : ℚ) : List RetryEvent × Outcome (Option α) ε :=
  retryLoop outcomes retried maxRetries backoffFactor maxRetries 0 initialDelay

/-- With `max_retries = 0` the wrapper returns `None` without calling the coroutine. -/
theorem retry_zero (initialDelay backoffFactor : ℚ) :
    retry outcomes retried 0 initialDelay backoffFactor = ([], .returned none) := rfl

/-- Whether a call's outcome makes the loop go on: it raised a retried exception. -/
def Outcome.retriable : Outcome α ε → Bool
  | .returned _ => false
  | .raised e => retried e

/-- The calls the wrapper makes: up to and including the first call whose outcome is not a retried exception, at most
`max_retries`. -/
def callsMade (maxRetries : Nat) : Nat :=
  (((List.range maxRetries).find? fun j => !(outcomes j).retriable retried).map (· + 1)).getD maxRetries

/-- What the wrapper ends with when its last call had outcome `o`. -/
def Outcome.lift : Outcome α ε → Outcome (Option α) ε
  | .returned v => .returned (some v)
  | .raised e => .raised e

/-- `k` calls with a sleep between two consecutive calls, `initialDelay · backoffFactor ^ j` after call `j + 1`. -/
def callSchedule (initialDelay backoffFactor : ℚ) (k : Nat) : List RetryEvent :=
  (List.range k).flatMap fun j => if j + 1 < k then [.call, .sleep (initialDelay * backoffFactor ^ j)] else [.call]

end Retry

namespace RetryAux

variable {α ε : Type} (outcomes : Nat → Outcome α ε) (retried : ε → Bool)

/-- The loop at iteration `i + 1` is the loop at iteration `i` on the outcomes from the second call on. -/
theorem retryLoop_succ_index (n : Nat) (f : ℚ) (r i : Nat) (delay : ℚ) (h : i + 1 + r = n) :
    retryLoop outcomes retried n f r (i + 1) delay =
      retryLoop (fun j => outcomes (j + 1)) retried (n - 1) f r i delay := by
  induction r generalizing i delay with
  | zero => rfl
  | succ r ih =>
    have hc : (i + 1 = n - 1) ↔ (i = n - 1 - 1) := by omega
    simp only [retryLoop, hc, ih (i + 1) (delay * f) (by omega)]

theorem callSchedule_one (d f : ℚ) : callSchedule d f 1 = [.call] := rfl

theorem callSchedule_succ_succ (d f : ℚ) (k : Nat) :
    callSchedule d f (k + 2) = .call :: .sleep d :: callSchedule (d * f) f (k + 1) := by
  rw [callSchedule, callSchedule, List.range_succ_eq_map, List.flatMap_cons, List.flatMap_map,
    if_pos (show 0 + 1 < k + 1 + 1 by omega), pow_zero, mul_one, List.cons_append, List.cons_append, List.nil_append]
  congr 2
  refine congrArg _ (funext fun j => ?_)
  simp only [Nat.succ_eq_add_one, pow_succ', mul_assoc,
    show (j + 1 + 1 < k + 1 + 1) = (j + 1 < k + 1) from propext Nat.add_lt_add_iff_right]

/-- When the first call is not retried, the wrapper makes one call. -/
theorem callsMade_of_not_retriable (n : Nat) (h : (outcomes 0).retriable retried = false) :
    callsMade outcomes retried (n + 1) = 1 := by
  simp [callsMade, List.range_succ_eq_map, List.find?_cons, h]

/-- When the first call is retried, the wrapper makes one call more than it makes on the later outcomes. -/
theorem callsMade_of_retriable (n : Nat) (h : (outcomes 0).retriable retried = true) :
    callsMade outcomes retried (n + 1) = callsMade (fun j => outcomes (j + 1)) retried n + 1 := by
  have hf : ((List.range (n + 1)).find? fun j => !(outcomes j).retriable retried) =
      ((List.range n).find? fun j => !(outcomes (j + 1)).retriable retried).map (· + 1) := by
    simp [List.range_succ_eq_map, List.find?_cons, h, List.find?_map, Function.comp_def]
  simp only [callsMade, hf]
  rcases (List.range n).find? fun j => !(outcomes (j + 1)).retriable retried with _ | j <;> rfl

theorem one_le_callsMade (n : Nat) (hn : 1 ≤ n) : 1 ≤ callsMade outcomes retried n := by
  unfold callsMade
  cases (List.range n).find? _ <;> simp [hn]

end RetryAux

open RetryAux

/-- From `max_retries ≥ 1` on, the wrapper calls the coroutine until the first outcome that is not a retried exception
or until `max_retries` calls, returns the last call's value or re-raises its exception, and sleeps exactly once between
two consecutive calls, `initial_delay · backoff_factor ^ (j - 1)` before call `j + 1`, never after the last call. -/
theorem retry_spec {α ε : Type} (outcomes : Nat → Outcome α ε) (retried : ε → Bool) (maxRetries : Nat)
    (initialDelay backoffFactor : ℚ) (hn : 1 ≤ maxRetries) :
    retry outcomes retried maxRetries initialDelay backoffFactor =
      (callSchedule initialDelay backoffFactor (callsMade outcomes retried maxRetries),
        (outcomes (callsMade outcomes retried maxRetries - 1)).lift) := by
  induction maxRetries generalizing outcomes initialDelay with
  | zero => omega
  | succ n ih =>
    unfold retry
    rw [retryLoop]
    rcases ho : outcomes 0 with v | e
    · rw [callsMade_of_not_retriable outcomes retried n (by simp [ho, Outcome.retriable])]
      simp [ho, Outcome.lift, callSchedule_one]
    · by_cases hr : retried e
      · by_cases hn0 : n = 0
        · subst hn0
          rw [callsMade_of_retriable outcomes retried 0 (by simp [ho, Outcome.retriable, hr])]
          simp [hr, ho, Outcome.lift, callSchedule_one, callsMade]
        · have hk := one_le_callsMade (fun j => outcomes (j + 1)) retried n (by omega)
          obtain ⟨k, hk'⟩ : ∃ k, callsMade (fun j => outcomes (j + 1)) retried n = k + 1 := ⟨_, (Nat.sub_add_cancel hk).symm⟩
          have hrest := ih (fun j => outcomes (j + 1)) (initialDelay * backoffFactor) (by omega)
          unfold retry at hrest
          rw [callsMade_of_retriable outcomes retried n (by simp [ho, Outcome.retriable, hr]), hk']
          rw [hk'] at hrest
          simp only [hr, if_true, show (0 : Nat) ≠ n + 1 - 1 by omega, if_false,
            retryLoop_succ_index outcomes retried (n + 1) backoffFactor n 0 _ (by omega), Nat.add_sub_cancel, hrest,
            callSchedule_succ_succ, Nat.add_sub_cancel]
          exact if_neg (by omega)
      · rw [callsMade_of_not_retriable outcomes retried n (by simp [ho, Outcome.retriable, hr])]
        simp [hr, ho, Outcome.lift, callSchedule_one]

/-- Three attempts, as the uploads use them: a retried failure, then a value; two calls, one sleep of the initial
delay. -/
theorem retry_spec_three : 1 ≤ 3 ∧
    retry (fun j => if j = 0 then .raised true else (.returned 7 : Outcome Nat Bool)) id 3 1 2 =
      (callSchedule 1 2 (callsMade (fun j => if j = 0 then .raised true else (.returned 7 : Outcome Nat Bool)) id 3),
        (((fun j => if j = 0 then .raised true else (.returned 7 : Outcome Nat Bool))
          (callsMade (fun j => if j = 0 then .raised true else (.returned 7 : Outcome Nat Bool)) id 3 - 1)).lift)) :=
  ⟨by decide, retry_spec _ id 3 1 2 (by decide)⟩

end ComputeHorde
