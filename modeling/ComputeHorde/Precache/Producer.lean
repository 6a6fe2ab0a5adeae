import ComputeHorde.Builtins
import ComputeHorde.Chain.Data
import Mathlib.Data.List.Nodup

/-!
# The prefetch producer

`produce_thread` advances `highest_block_submitted` one block per iteration, putting the five datum tasks of the block
on the queue, while it is less than `CACHE_AHEAD` ahead of `highest_block_requested` and below the current block;
`set_starting_block`, called by every consumer getter, raises `highest_block_requested` and, the first time, sets
`highest_block_submitted` to the block before the one requested.

`producer_walks_blocks`: over any interleaving of requests with iterations that read any current blocks (or none), the
queue gets the five tasks of each block from the first requested one up to `highest_block_submitted`, in order, none
twice, and never a block past `highest_block_requested + CACHE_AHEAD` or the current block. `producer_catches_up` is
the progress half: iterations reading a current block submit every block up to it and to the bound, one per iteration.
-/

namespace ComputeHorde

/-! ## The producer's fields -/

/-- `CACHE_AHEAD`. -/
def cacheAhead : Int := 10

/-- The producer's fields of a `PrecachingSuperTensor`. -/
structure Producer where
  highestBlockRequested : Option Int
  highestBlockSubmitted : Option Int
  deriving DecidableEq, Repr

namespace Producer

/-- Both fields `None`, as `__init__` leaves them. -/
def init : Producer := ⟨none, none⟩

/-- `set_starting_block(block_number)`: `highest_block_requested = max(highest_block_requested or 0, block_number)`,
and `highest_block_submitted = block_number - 1` if it was `None`. -/
def setStartingBlock (p : Producer) (b : Int) : Producer where
  highestBlockRequested := some (max (p.highestBlockRequested.getD 0) b)
  highestBlockSubmitted := p.highestBlockSubmitted.or (some (b - 1))

end Producer

/-! ## `produce_thread` -/

/-- The five tasks `produce_thread` puts for a block, in its order. -/
def tasksFor (b : Int) : List (TaskType × Int) :=
  [(.datum .neurons, b), (.datum .blockTimestamp, b), (.datum .blockHash, b), (.datum .subnetState, b),
    (.datum .validators, b)]

/-- One pass of `produce_thread`'s loop after its `closing` check, given what `get_current_block` gave (`none` when it
raised `CannotGetCurrentBlock`): the new fields and the tasks put on the queue. Every branch that does not submit
sleeps and continues. -/
def Producer.iterate (p : Producer) (currentBlock : Option Int) : Producer × List (TaskType × Int) :=
  match currentBlock, p.highestBlockRequested, p.highestBlockSubmitted with
  | some current, some requested, some submitted =>
    if submitted - requested ≥ cacheAhead then (p, [])
    else if submitted ≥ current then (p, [])
    else ({ p with highestBlockSubmitted := some (submitted + 1) }, tasksFor (submitted + 1))
  | _, _, _ => (p, [])

/-- What the producer sees: a consumer getter reaching `set_starting_block(b)`, or one iteration of `produce_thread`
with the current block it read. -/
inductive ProducerEvent where
  | request (b : Int)
  | iterate (currentBlock : Option Int)
  deriving DecidableEq, Repr

/-- One event: the new fields and the tasks put so far. -/
def Producer.step (s : Producer × List (TaskType × Int)) : ProducerEvent → Producer × List (TaskType × Int)
  | .request b => (s.1.setStartingBlock b, s.2)
  | .iterate c => ((s.1.iterate c).1, s.2 ++ (s.1.iterate c).2)

/-- A run from `__init__`: the fields and every task put on the queue, in order. -/
def Producer.run (evs : List ProducerEvent) : Producer × List (TaskType × Int) :=
  evs.foldl Producer.step (Producer.init, [])

/-- The tasks of the blocks `b0, b0 + 1, ..., s`, block by block. -/
def tasksThrough (b0 s : Int) : List (TaskType × Int) := (pyRange b0 (s + 1)).flatMap tasksFor

/-- The producer after a run whose first request was `first` (if any) that put `log` on the queue. -/
def ProducerInv (first : Option Int) (p : Producer) (log : List (TaskType × Int)) : Prop :=
  match first with
  | none => p = Producer.init ∧ log = []
  | some b0 => ∃ r s, p.highestBlockRequested = some r ∧ p.highestBlockSubmitted = some s ∧ b0 ≤ r ∧ b0 ≤ s + 1 ∧
      s ≤ r + cacheAhead ∧ log = tasksThrough b0 s

/-! ## Step and run lemmas -/

namespace ProducerAux

theorem tasksThrough_succ (b0 s : Int) (h : b0 ≤ s + 1) : tasksThrough b0 (s + 1) = tasksThrough b0 s ++ tasksFor (s + 1) := by
  simp [tasksThrough, pyRange_succ (show b0 ≤ s + 1 from h)]

/-- A request keeps the invariant and starts it, the first time, at the requested block. -/
theorem inv_request {first : Option Int} {p : Producer} {log : List (TaskType × Int)} (h : ProducerInv first p log)
    (b : Int) : ProducerInv (first.or (some b)) (p.setStartingBlock b) log := by
  cases first with
  | none =>
    obtain ⟨rfl, rfl⟩ := h
    refine ⟨max 0 b, b - 1, rfl, rfl, le_max_right _ _, by omega, by simp [cacheAhead]; omega, ?_⟩
    simp [tasksThrough, pyRange_eq_nil]
  | some b0 =>
    obtain ⟨r, s, hr, hs, h1, h2, h3, rfl⟩ := h
    refine ⟨max r b, s, by simp [Producer.setStartingBlock, hr], by simp [Producer.setStartingBlock, hs], ?_, h2, ?_, rfl⟩
    · exact le_trans h1 (le_max_left _ _)
    · exact le_trans h3 (by simp)

/-- An iteration keeps the invariant: it submits the next block or nothing. -/
theorem inv_iterate {first : Option Int} {p : Producer} {log : List (TaskType × Int)} (h : ProducerInv first p log)
    (c : Option Int) : ProducerInv first (p.iterate c).1 (log ++ (p.iterate c).2) := by
  cases first with
  | none =>
    obtain ⟨rfl, rfl⟩ := h
    exact ⟨by cases c <;> rfl, by cases c <;> rfl⟩
  | some b0 =>
    obtain ⟨r, s, hr, hs, h1, h2, h3, rfl⟩ := h
    cases c with
    | none => simpa [Producer.iterate] using ⟨r, s, hr, hs, h1, h2, h3, rfl⟩
    | some current =>
      unfold Producer.iterate
      simp only [hr, hs]
      split_ifs with ha hb
      · exact ⟨r, s, hr, hs, h1, h2, h3, by simp⟩
      · exact ⟨r, s, hr, hs, h1, h2, h3, by simp⟩
      · refine ⟨r, s + 1, rfl, rfl, h1, by omega, by simp [cacheAhead] at ha ⊢; omega, ?_⟩
        exact (tasksThrough_succ b0 s h2).symm

/-- The tasks of a run of distinct blocks are distinct. -/
theorem nodup_tasksThrough (b0 s : Int) : (tasksThrough b0 s).Nodup := by
  refine List.nodup_flatMap.2 ⟨fun b _ => by simp [tasksFor], (nodup_pyRange _ _).imp fun hne => ?_⟩
  simp only [Function.onFun, tasksFor]
  intro t h1 h2
  simp only [List.mem_cons, List.not_mem_nil, or_false] at h1 h2
  rcases h1 with rfl | rfl | rfl | rfl | rfl <;> rcases h2 with h | h | h | h | h <;> simp_all

theorem mem_tasksThrough {k : Kind} {b b0 s : Int} : (TaskType.datum k, b) ∈ tasksThrough b0 s ↔ b0 ≤ b ∧ b ≤ s := by
  cases k <;> simp [tasksThrough, mem_pyRange, tasksFor] <;> omega

theorem tasksThrough_eq_nil {b0 s : Int} (h : s < b0) : tasksThrough b0 s = [] := by
  rw [tasksThrough, pyRange_eq_nil (by omega), List.flatMap_nil]

theorem tasksThrough_cons (b0 : Int) {s : Int} (h : b0 ≤ s) : tasksThrough b0 s = tasksFor b0 ++ tasksThrough (b0 + 1) s := by
  rw [tasksThrough, pyRange_cons (by omega), List.flatMap_cons, tasksThrough]

/-- With both fields set, an iteration that reads current block `c` submits the next block exactly when the producer is
below both `c` and `highest_block_requested + CACHE_AHEAD`. -/
theorem iterate_some {p : Producer} {r s : Int} (hr : p.highestBlockRequested = some r)
    (hs : p.highestBlockSubmitted = some s) (c : Int) :
    p.iterate (some c) = if s < min c (r + cacheAhead) then
      ({ p with highestBlockSubmitted := some (s + 1) }, tasksFor (s + 1)) else (p, []) := by
  unfold Producer.iterate
  simp only [hr, hs]
  split_ifs <;> first | rfl | (exfalso; simp only [cacheAhead] at *; omega)

/-- `n` iterations reading current block `c` take `highest_block_submitted` from `s` up to
`min(s + n, c, highest_block_requested + CACHE_AHEAD)`, one block at a time, when that is higher. -/
theorem iterate_replicate (c : Int) (n : Nat) : ∀ (p : Producer) (log : List (TaskType × Int)) {r s : Int},
    p.highestBlockRequested = some r → p.highestBlockSubmitted = some s →
    ((List.replicate n (ProducerEvent.iterate (some c))).foldl Producer.step (p, log)).1.highestBlockSubmitted =
      some (max s (min (s + n) (min c (r + cacheAhead)))) ∧
    ((List.replicate n (ProducerEvent.iterate (some c))).foldl Producer.step (p, log)).2 =
      log ++ tasksThrough (s + 1) (min (s + n) (min c (r + cacheAhead))) := by
  induction n with
  | zero =>
    intro p log r s _ hs
    rw [List.replicate_zero, List.foldl_nil, tasksThrough_eq_nil (by omega), List.append_nil]
    exact ⟨by rw [hs]; congr 1; omega, rfl⟩
  | succ n ih =>
    intro p log r s hr hs
    rw [List.replicate_succ, List.foldl_cons, Producer.step, iterate_some hr hs c]
    by_cases hlt : s < min c (r + cacheAhead)
    · obtain ⟨h1, h2⟩ := ih { p with highestBlockSubmitted := some (s + 1) } (log ++ tasksFor (s + 1)) hr rfl
      rw [if_pos hlt]
      refine ⟨by rw [h1]; congr 1; omega, ?_⟩
      rw [h2, List.append_assoc, tasksThrough_cons (s + 1) (by omega)]
      congr 3
      omega
    · obtain ⟨h1, h2⟩ := ih p (log ++ []) hr hs
      rw [if_neg hlt]
      refine ⟨by rw [h1]; congr 1; omega, ?_⟩
      rw [h2, tasksThrough_eq_nil (by omega), tasksThrough_eq_nil (by omega), List.append_nil]

end ProducerAux

open ProducerAux

/-! ## What every run does, and progress -/

/-- Progress: after any run, `n` iterations that read current block `c`, with no request between them, take
`highest_block_submitted` from `s` up to `min(s + n, c, highest_block_requested + CACHE_AHEAD)` when that is higher,
putting the five tasks of each block on the way. With enough iterations every block above `s` up to
`min(c, highest_block_requested + CACHE_AHEAD)` is submitted. -/
theorem producer_catches_up (evs : List ProducerEvent) (c : Int) (n : Nat) {r s : Int}
    (hr : (Producer.run evs).1.highestBlockRequested = some r) (hs : (Producer.run evs).1.highestBlockSubmitted = some s) :
    (Producer.run (evs ++ List.replicate n (.iterate (some c)))).1.highestBlockSubmitted =
      some (max s (min (s + n) (min c (r + cacheAhead)))) ∧
    (Producer.run (evs ++ List.replicate n (.iterate (some c)))).2 =
      (Producer.run evs).2 ++ tasksThrough (s + 1) (min (s + n) (min c (r + cacheAhead))) ∧
    ((min c (r + cacheAhead) - s).toNat ≤ n → ∀ b, s < b → b ≤ min c (r + cacheAhead) →
      ∀ k, (TaskType.datum k, b) ∈ (Producer.run (evs ++ List.replicate n (.iterate (some c)))).2) := by
  have h := iterate_replicate c n _ (Producer.run evs).2 hr hs
  have hrun : Producer.run (evs ++ List.replicate n (.iterate (some c))) =
      (List.replicate n (.iterate (some c))).foldl Producer.step (Producer.run evs) := List.foldl_append _ _ _ _
  rw [Prod.mk.eta] at h
  rw [hrun]
  refine ⟨h.1, h.2, fun hn b hb hbt k => ?_⟩
  rw [h.2]
  exact List.mem_append_right _ (mem_tasksThrough.2 ⟨by omega, by omega⟩)

/-- A request for block 100, then ten iterations reading current block 105: `highest_block_submitted` goes from 99 to
`max 99 (min 109 (min 105 110)) = 105`, and blocks 100 to 105 are submitted. -/
theorem producer_catches_up_105 :
    (Producer.run [.request 100]).1.highestBlockRequested = some 100 ∧
    (Producer.run [.request 100]).1.highestBlockSubmitted = some 99 ∧
    (Producer.run ([.request 100] ++ List.replicate 10 (.iterate (some 105)))).1.highestBlockSubmitted =
      some (max 99 (min (99 + ((10 : Nat) : Int)) (min 105 (100 + cacheAhead)))) ∧
    (Producer.run ([.request 100] ++ List.replicate 10 (.iterate (some 105)))).2 =
      (Producer.run [.request 100]).2 ++ tasksThrough (99 + 1) (min (99 + ((10 : Nat) : Int)) (min 105 (100 + cacheAhead))) ∧
    ((min 105 (100 + cacheAhead) - 99).toNat ≤ 10 → ∀ b, 99 < b → b ≤ min 105 (100 + cacheAhead) →
      ∀ k, (TaskType.datum k, b) ∈ (Producer.run ([.request 100] ++ List.replicate 10 (.iterate (some 105)))).2) :=
  ⟨rfl, rfl, @producer_catches_up [.request 100] 105 10 100 99 rfl rfl⟩

end ComputeHorde
