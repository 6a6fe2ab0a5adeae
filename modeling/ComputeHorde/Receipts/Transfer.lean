import ComputeHorde.Receipts.Pages
import Mathlib.Algebra.BigOperators.Group.List
import Mathlib.Algebra.Order.Ring.Rat
import Mathlib.Algebra.Order.Ring.Nat

/-!
# The receipt transfer loops and their metrics

Each pass of `catch_up` checks `DYNAMIC_RECEIPT_TRANSFER_ENABLED` (`_throw_if_disabled` raises `TransferIsDisabled`),
sets the `catchup_pages_left` gauge, reads the miners, transfers one page and pushes the result's metrics; at the end
it sets the gauge to `0`. `keep_up` does the same forever over the `N_ACTIVE_PAGES` pages ending at the current page,
and sleeps away the rest of `DYNAMIC_RECEIPT_TRANSFER_INTERVAL`. `_push_common_metrics` counts errors by type in a
`defaultdict(int)`, then increments each `exc_type` label once by its count (`pushCommonMetrics_counts`).
`catchUp_run` and `keepUp_run` say, for every answer of the world, which pages each loop transfers, when it raises,
what its counters and gauge end at, and that each pass of `keep_up` takes at least the interval.
-/

namespace ComputeHorde

/-! ## Transfer results and the command's metrics -/

/-- A miner to fetch receipts from: `(hotkey, address, port)`. -/
structure MinerInfo where
  hotkey : String
  address : String
  port : Nat
  deriving DecidableEq, Repr

/-- `TransferResult` of `ReceiptsTransfer.transfer` (not under src): the receipts and successful transfers it counts,
and its transfer errors and line errors, each by the `__name__` of its type. -/
structure TransferResult where
  nReceipts : Nat
  nSuccessfulTransfers : Nat
  transferErrors : List String
  lineErrors : List String
  deriving DecidableEq, Repr

/-- The command's metrics: the counters `receipts` and `successful_transfers`, the counters `line_errors` and
`transfer_errors` by their `exc_type` label, and the gauges `catchup_pages_left` and `miners`. The histogram
`transfer_duration` is left out. -/
structure Metrics where
  receipts : Nat
  successfulTransfers : Nat
  lineErrors : String → Nat
  transferErrors : String → Nat
  catchupPagesLeft : Int
  miners : Nat

/-- `n[type(error)] += 1` on a `defaultdict(int)`, kept as its `(type, count)` pairs in insertion order. -/
def bumpType : List (String × Nat) → String → List (String × Nat)
  | [], t => [(t, 1)]
  | (k, c) :: rest, t => if k = t then (k, c + 1) :: rest else (k, c) :: bumpType rest t

/-- The `defaultdict(int)` of errors by type that `_push_common_metrics` builds. -/
def countByType (errors : List String) : List (String × Nat) :=
  errors.foldl bumpType []

/-- `for exc_type, exc_count in n.items(): counter.labels(exc_type=exc_type).inc(exc_count)`. -/
def incLabels (c : String → Nat) : List (String × Nat) → String → Nat
  | [] => c
  | (t, n) :: groups => incLabels (Function.update c t (c t + n)) groups

/-- `_push_common_metrics(result)`. -/
def pushCommonMetrics (m : Metrics) (r : TransferResult) : Metrics :=
  { m with
    lineErrors := incLabels m.lineErrors (countByType r.lineErrors)
    transferErrors := incLabels m.transferErrors (countByType r.transferErrors)
    receipts := m.receipts + r.nReceipts
    successfulTransfers := m.successfulTransfers + r.nSuccessfulTransfers }

/-! ## The two transfer loops -/

/-- What the world answers in one pass of a transfer loop: `DYNAMIC_RECEIPT_TRANSFER_ENABLED` (`none` when the dynamic
config is not set up, the `KeyError` `_throw_if_disabled` catches), the miners `miners()` returns, and the result of
`ReceiptsTransfer.transfer`. -/
structure Tick where
  enabled : Option Bool
  miners : List MinerInfo
  result : TransferResult

/-- `_throw_if_disabled` lets the pass go on only when the setting is set up and true. -/
def Tick.passes (tick : Tick) : Bool :=
  tick.enabled == some true

/-- A run of a transfer loop: the transfers it asked for (the miners and the pages of each), the metrics after it, and
whether it raised `TransferIsDisabled`. -/
structure TransferRun where
  requests : List (List MinerInfo × List Int)
  metrics : Metrics
  disabled : Bool

/-- `catch_up(pages, ...)` from the pass `idx` on, `total` being `len(pages)` and `world i` the answers of pass `i`. -/
def catchUpFrom (world : Nat → Tick) (total : Nat) : Nat → List Int → TransferRun → TransferRun
  | _, [], run => { run with metrics := { run.metrics with catchupPagesLeft := 0 } }
  | idx, page :: pages, run =>
    if (world idx).passes then
      catchUpFrom world total (idx + 1) pages
        { run with
          requests := run.requests ++ [((world idx).miners, [page])]
          metrics := pushCommonMetrics { run.metrics with catchupPagesLeft := (total : Int) - idx } (world idx).result }
    else { run with disabled := true }

/-- `catch_up(pages, miners, session, semaphore)` on metrics `m`. -/
def catchUp (world : Nat → Tick) (pages : List Int) (m : Metrics) : TransferRun :=
  catchUpFrom world pages.length 0 pages ⟨[], m, false⟩

/-- `run_once`: a catch-up over the pages from the cutoff page up to the current one, newest first. -/
def runOnce (world : Nat → Tick) (cutoffPage currentPage : Int) (m : Metrics) : TransferRun :=
  catchUp world (runOncePages cutoffPage currentPage) m

/-- What the world answers in one pass of `keep_up`, besides its `Tick`: `DYNAMIC_RECEIPT_TRANSFER_INTERVAL`, the
current page, and the seconds from `start_time` to the end of the transfer (`elapsed`). -/
structure KeepUpTick where
  tick : Tick
  interval : Nat
  currentPage : Int
  elapsed : ℚ

/-- A run of `keep_up`: its transfers and metrics, and the `time.sleep` of each pass. -/
structure KeepUpRun where
  run : TransferRun
  sleeps : List ℚ

/-- `if elapsed < interval: time.sleep(interval - elapsed)`: the sleep that ends a pass of `keep_up`, if any. -/
def passSleep (w : KeepUpTick) : List ℚ :=
  if w.elapsed < w.interval then [w.interval - w.elapsed] else []

/-- `keep_up(...)` for at most `fuel` passes from pass `idx` on (the loop never ends by itself): each pass checks the
switch, reads the interval and the current page, transfers the `N_ACTIVE_PAGES` pages ending there from the miners it
reads, pushes the metrics, sets the `miners` gauge, and sleeps for the rest of the interval if any. -/
def keepUpFrom (nActivePages : Nat) (world : Nat → KeepUpTick) : Nat → Nat → KeepUpRun → KeepUpRun
  | 0, _, k => k
  | fuel + 1, idx, k =>
    let w := world idx
    if w.tick.passes then
      keepUpFrom nActivePages world fuel (idx + 1)
        { run :=
            { k.run with
              requests := k.run.requests ++ [(w.tick.miners, activePages nActivePages w.currentPage)]
              metrics := { pushCommonMetrics k.run.metrics w.tick.result with miners := w.tick.miners.length } }
          sleeps := k.sleeps ++ passSleep w }
    else { k with run := { k.run with disabled := true } }

/-- `keep_up(miners, session, semaphore)` on metrics `m`, for at most `fuel` passes. -/
def keepUp (nActivePages : Nat) (world : Nat → KeepUpTick) (fuel : Nat) (m : Metrics) : KeepUpRun :=
  keepUpFrom nActivePages world fuel 0 ⟨⟨[], m, false⟩, []⟩

/-! ## The miners `handle` reads -/

/-- Where `handle` takes the miners from. -/
inductive MinerSource where
  /-- The miner given by `--debug-miner-hotkey`, `--debug-miner-ip` and `--debug-miner-port`. -/
  | explicit (miner : MinerInfo)
  /-- `settings.DEBUG_FETCH_RECEIPTS_FROM_MINERS`. -/
  | debugMiners (miners : List MinerInfo)
  /-- The serving miners of the latest metagraph snapshot. -/
  | metagraph
  deriving DecidableEq, Repr

/-- `handle`'s choice of miners: the explicit miner when all three details are given (`ValueError` when only some
are), else the debug miners when the setting lists any, else the metagraph's. -/
def handleMiners (hotkey : Option String) (ip : Option String) (port : Option Nat) (debugMiners : List MinerInfo) :
    Except String MinerSource :=
  if hotkey.isSome || ip.isSome || port.isSome then
    match hotkey, ip, port with
    | some h, some a, some p => .ok (.explicit ⟨h, a, p⟩)
    | _, _, _ => .error "Either none or all of explicit miner details must be provided"
  else if debugMiners.isEmpty then .ok .metagraph
  else .ok (.debugMiners debugMiners)

namespace TransferAux

/-! ## Grouping errors by type -/

/-- What a list of `(type, count)` pairs holds for the type `t`. -/
def labelCount (groups : List (String × Nat)) (t : String) : Nat :=
  ((groups.filter fun g => g.1 = t).map Prod.snd).sum

theorem labelCount_cons (k : String) (c : Nat) (groups : List (String × Nat)) (t : String) :
    labelCount ((k, c) :: groups) t = (if k = t then c else 0) + labelCount groups t := by
  by_cases h : k = t <;> simp [labelCount, h]

theorem incLabels_apply (c : String → Nat) (groups : List (String × Nat)) (t : String) :
    incLabels c groups t = c t + labelCount groups t := by
  induction groups generalizing c with
  | nil => simp [incLabels, labelCount]
  | cons g groups ih =>
    obtain ⟨k, n⟩ := g
    rw [incLabels, ih, Function.update_apply, labelCount_cons]
    by_cases hk : t = k
    · subst hk
      simp only [if_true]
      omega
    · simp [hk, Ne.symm hk]

theorem labelCount_bumpType (groups : List (String × Nat)) (e t : String) :
    labelCount (bumpType groups e) t = labelCount groups t + if e = t then 1 else 0 := by
  induction groups with
  | nil => by_cases h : e = t <;> simp [bumpType, labelCount, h]
  | cons g groups ih =>
    obtain ⟨k, c⟩ := g
    by_cases hk : k = e
    · subst hk
      simp only [bumpType, if_true, labelCount_cons]
      split_ifs <;> omega
    · simp only [bumpType, hk, if_false, labelCount_cons, ih]
      omega

/-- The `defaultdict(int)` counts each type as often as it occurs. -/
theorem labelCount_countByType (errors : List String) (t : String) :
    labelCount (countByType errors) t = errors.count t := by
  suffices h : ∀ groups, labelCount (errors.foldl bumpType groups) t = labelCount groups t + errors.count t by
    simpa [labelCount] using h []
  induction errors with
  | nil => simp
  | cons e errors ih =>
    intro groups
    rw [List.foldl_cons, ih, labelCount_bumpType, List.count_cons]
    by_cases h : e = t <;> simp [h]
    omega

theorem incLabels_countByType (c : String → Nat) (errors : List String) (t : String) :
    incLabels c (countByType errors) t = c t + errors.count t := by
  rw [incLabels_apply, labelCount_countByType]

/-! ## Counters -/

/-- A counter of the command: `_push_common_metrics` raises it by `inc` of the result, and setting a gauge leaves it
alone. -/
structure Counter (proj : Metrics → Nat) (inc : TransferResult → Nat) : Prop where
  push : ∀ m r, proj (pushCommonMetrics m r) = proj m + inc r
  setCatchupPagesLeft : ∀ (m : Metrics) v, proj { m with catchupPagesLeft := v } = proj m
  setMiners : ∀ (m : Metrics) n, proj { m with miners := n } = proj m

theorem counter_receipts : Counter Metrics.receipts TransferResult.nReceipts :=
  ⟨fun _ _ => rfl, fun _ _ => rfl, fun _ _ => rfl⟩

theorem counter_successfulTransfers : Counter Metrics.successfulTransfers TransferResult.nSuccessfulTransfers :=
  ⟨fun _ _ => rfl, fun _ _ => rfl, fun _ _ => rfl⟩

/-- Each `exc_type` label is a counter, raised by the errors of that type. -/
theorem counter_lineErrors (t : String) : Counter (fun m => m.lineErrors t) (fun r => r.lineErrors.count t) :=
  ⟨fun _ _ => incLabels_countByType _ _ _, fun _ _ => rfl, fun _ _ => rfl⟩

theorem counter_transferErrors (t : String) :
    Counter (fun m => m.transferErrors t) (fun r => r.transferErrors.count t) :=
  ⟨fun _ _ => incLabels_countByType _ _ _, fun _ _ => rfl, fun _ _ => rfl⟩

/-! ## The passes of `catch_up` -/

/-- The passes `catch_up` makes from pass `idx` on: up to the first whose check fails. -/
def passesMade (world : Nat → Tick) : Nat → List Int → Nat
  | _, [] => 0
  | idx, _ :: pages => if (world idx).passes then passesMade world (idx + 1) pages + 1 else 0

section CatchUp

variable (world : Nat → Tick) (total : Nat)

theorem passesMade_le (idx : Nat) (pages : List Int) : passesMade world idx pages ≤ pages.length := by
  induction pages generalizing idx with
  | nil => simp [passesMade]
  | cons p pages ih =>
    simp only [passesMade, List.length_cons]
    split
    · exact Nat.succ_le_succ (ih _)
    · omega

theorem passes_of_lt_passesMade {idx i : Nat} {pages : List Int} (h : i < passesMade world idx pages) :
    (world (idx + i)).passes = true := by
  induction pages generalizing idx i with
  | nil => simp [passesMade] at h
  | cons p pages ih =>
    simp only [passesMade] at h
    split at h
    · cases i with
      | zero => assumption
      | succ i => simpa only [Nat.add_right_comm, Nat.add_assoc] using @ih (idx + 1) i (by omega)
    · omega

theorem passes_passesMade {idx : Nat} {pages : List Int} (h : passesMade world idx pages < pages.length) :
    (world (idx + passesMade world idx pages)).passes = false := by
  induction pages generalizing idx with
  | nil => simp at h
  | cons p pages ih =>
    by_cases hp : (world idx).passes = true
    · have hk : passesMade world idx (p :: pages) = passesMade world (idx + 1) pages + 1 := by simp [passesMade, hp]
      rw [hk] at h ⊢
      rw [show idx + (passesMade world (idx + 1) pages + 1) = idx + 1 + passesMade world (idx + 1) pages by omega]
      exact ih (by simp only [List.length_cons] at h; omega)
    · simp [passesMade, hp]

theorem catchUpFrom_requests (idx : Nat) (pages : List Int) (run : TransferRun) :
    (catchUpFrom world total idx pages run).requests = run.requests ++
      (List.enumFrom idx (pages.take (passesMade world idx pages))).map fun ip => ((world ip.1).miners, [ip.2]) := by
  induction pages generalizing idx run with
  | nil => simp [catchUpFrom, passesMade]
  | cons p pages ih =>
    simp only [catchUpFrom, passesMade]
    split
    · simp [ih]
    · simp

theorem catchUpFrom_disabled (idx : Nat) (pages : List Int) (run : TransferRun) :
    (catchUpFrom world total idx pages run).disabled =
      (run.disabled || decide (passesMade world idx pages < pages.length)) := by
  induction pages generalizing idx run with
  | nil => simp [catchUpFrom, passesMade]
  | cons p pages ih =>
    simp only [catchUpFrom, passesMade]
    split
    · simp [ih]
    · simp

/-- A counter ends raised by `inc` of every pass made. -/
theorem catchUpFrom_counter {proj : Metrics → Nat} {inc : TransferResult → Nat} (hc : Counter proj inc)
    (idx : Nat) (pages : List Int) (run : TransferRun) :
    proj (catchUpFrom world total idx pages run).metrics =
      proj run.metrics + ((List.range' idx (passesMade world idx pages)).map fun i => inc (world i).result).sum := by
  induction pages generalizing idx run with
  | nil => simp [catchUpFrom, passesMade, hc.setCatchupPagesLeft]
  | cons p pages ih =>
    simp only [catchUpFrom, passesMade]
    split
    · rw [ih, hc.push, hc.setCatchupPagesLeft, List.range'_succ, List.map_cons, List.sum_cons]
      omega
    · simp

theorem catchUpFrom_gauge (idx : Nat) (pages : List Int) (run : TransferRun) :
    (catchUpFrom world total idx pages run).metrics.catchupPagesLeft =
      if passesMade world idx pages = pages.length then 0
      else if passesMade world idx pages = 0 then run.metrics.catchupPagesLeft
      else (total : Int) - (idx + passesMade world idx pages) + 1 := by
  induction pages generalizing idx run with
  | nil => simp [catchUpFrom, passesMade]
  | cons p pages ih =>
    simp only [catchUpFrom, passesMade, List.length_cons]
    split
    · rw [ih]
      simp only [pushCommonMetrics, Nat.add_right_cancel_iff, Nat.add_one_ne_zero, if_false]
      split_ifs <;> push_cast <;> omega
    · simp

end CatchUp

/-! ## The passes of `keep_up` -/

/-- The passes `keep_up` makes in `fuel` passes from pass `idx` on: up to the first whose check fails. -/
def keepUpPasses (world : Nat → KeepUpTick) : Nat → Nat → Nat
  | 0, _ => 0
  | fuel + 1, idx => if (world idx).tick.passes then keepUpPasses world fuel (idx + 1) + 1 else 0

/-- A pass takes the larger of its transfer's time and its interval. -/
theorem elapsed_add_passSleep (w : KeepUpTick) : w.elapsed + (passSleep w).sum = max w.elapsed w.interval := by
  unfold passSleep
  split
  · rw [List.sum_singleton, max_eq_right (le_of_lt ‹_›), add_sub_cancel]
  · rw [List.sum_nil, add_zero, max_eq_left (not_lt.1 ‹_›)]

section KeepUp

variable (nActivePages : Nat) (world : Nat → KeepUpTick)

theorem keepUpPasses_le (fuel idx : Nat) : keepUpPasses world fuel idx ≤ fuel := by
  induction fuel generalizing idx with
  | zero => simp [keepUpPasses]
  | succ fuel ih =>
    simp only [keepUpPasses]
    split
    · exact Nat.succ_le_succ (ih _)
    · omega

theorem passes_of_lt_keepUpPasses {fuel idx i : Nat} (h : i < keepUpPasses world fuel idx) :
    (world (idx + i)).tick.passes = true := by
  induction fuel generalizing idx i with
  | zero => simp [keepUpPasses] at h
  | succ fuel ih =>
    simp only [keepUpPasses] at h
    split at h
    · cases i with
      | zero => assumption
      | succ i => simpa only [Nat.add_right_comm, Nat.add_assoc] using @ih (idx + 1) i (by omega)
    · omega

theorem passes_keepUpPasses {fuel idx : Nat} (h : keepUpPasses world fuel idx < fuel) :
    (world (idx + keepUpPasses world fuel idx)).tick.passes = false := by
  induction fuel generalizing idx with
  | zero => simp at h
  | succ fuel ih =>
    by_cases hp : (world idx).tick.passes = true
    · have hk : keepUpPasses world (fuel + 1) idx = keepUpPasses world fuel (idx + 1) + 1 := by
        simp [keepUpPasses, hp]
      rw [hk] at h ⊢
      rw [show idx + (keepUpPasses world fuel (idx + 1) + 1) = idx + 1 + keepUpPasses world fuel (idx + 1) by omega]
      exact ih (by omega)
    · simp [keepUpPasses, hp]

theorem keepUpFrom_requests (fuel idx : Nat) (k : KeepUpRun) :
    (keepUpFrom nActivePages world fuel idx k).run.requests = k.run.requests ++
      (List.range' idx (keepUpPasses world fuel idx)).map fun i =>
        ((world i).tick.miners, activePages nActivePages (world i).currentPage) := by
  induction fuel generalizing idx k with
  | zero => simp [keepUpFrom, keepUpPasses]
  | succ fuel ih =>
    simp only [keepUpFrom, keepUpPasses]
    split
    · simp [ih, List.range'_succ]
    · simp

theorem keepUpFrom_disabled (fuel idx : Nat) (k : KeepUpRun) :
    (keepUpFrom nActivePages world fuel idx k).run.disabled =
      (k.run.disabled || decide (keepUpPasses world fuel idx < fuel)) := by
  induction fuel generalizing idx k with
  | zero => simp [keepUpFrom, keepUpPasses]
  | succ fuel ih =>
    simp only [keepUpFrom, keepUpPasses]
    split
    · simp [ih]
    · simp

theorem keepUpFrom_sleeps (fuel idx : Nat) (k : KeepUpRun) :
    (keepUpFrom nActivePages world fuel idx k).sleeps =
      k.sleeps ++ ((List.range' idx (keepUpPasses world fuel idx)).map fun i => passSleep (world i)).flatten := by
  induction fuel generalizing idx k with
  | zero => simp [keepUpFrom, keepUpPasses]
  | succ fuel ih =>
    simp only [keepUpFrom, keepUpPasses]
    split
    · simp [ih, List.range'_succ]
    · simp

/-- A counter ends raised by `inc` of every pass made. -/
theorem keepUpFrom_counter {proj : Metrics → Nat} {inc : TransferResult → Nat} (hc : Counter proj inc)
    (fuel idx : Nat) (k : KeepUpRun) :
    proj (keepUpFrom nActivePages world fuel idx k).run.metrics =
      proj k.run.metrics + ((List.range' idx (keepUpPasses world fuel idx)).map fun i => inc (world i).tick.result).sum := by
  induction fuel generalizing idx k with
  | zero => simp [keepUpFrom, keepUpPasses]
  | succ fuel ih =>
    simp only [keepUpFrom, keepUpPasses]
    split
    · rw [ih, hc.setMiners, hc.push, List.range'_succ, List.map_cons, List.sum_cons]
      omega
    · simp

end KeepUp

end TransferAux

open TransferAux

/-! ## The loops, for every answer of the world -/

/-- `_push_common_metrics` increments every `exc_type` label of `line_errors` and of `transfer_errors` by exactly the
number of the result's errors of that type, as one increment per error would. -/
theorem pushCommonMetrics_counts (m : Metrics) (r : TransferResult) (t : String) :
    (pushCommonMetrics m r).lineErrors t = m.lineErrors t + r.lineErrors.count t ∧
    (pushCommonMetrics m r).transferErrors t = m.transferErrors t + r.transferErrors.count t :=
  ⟨incLabels_countByType _ _ _, incLabels_countByType _ _ _⟩

/-- A catch-up makes its passes up to the first whose check of `DYNAMIC_RECEIPT_TRANSFER_ENABLED` fails: it transfers
the pages before that pass, in order, one transfer per page with the miners read in the same pass, and raises
`TransferIsDisabled` exactly when a check failed. Its counters end raised by the results of the passes it made, each
`exc_type` label by the errors of that type. The `catchup_pages_left` gauge ends at `0` when it gets through the list,
is untouched when the first check fails, and otherwise still counts the page it transferred last. -/
theorem catchUp_run (world : Nat → Tick) (pages : List Int) (m : Metrics) :
    ∃ k ≤ pages.length, (∀ i < k, (world i).passes = true) ∧ (k < pages.length → (world k).passes = false) ∧
      (catchUp world pages m).requests = (pages.take k).enum.map (fun ip => ((world ip.1).miners, [ip.2])) ∧
      ((catchUp world pages m).disabled = true ↔ k < pages.length) ∧
      (catchUp world pages m).metrics.receipts =
        m.receipts + ((List.range k).map fun i => (world i).result.nReceipts).sum ∧
      (catchUp world pages m).metrics.successfulTransfers =
        m.successfulTransfers + ((List.range k).map fun i => (world i).result.nSuccessfulTransfers).sum ∧
      (∀ t, (catchUp world pages m).metrics.lineErrors t =
        m.lineErrors t + ((List.range k).map fun i => (world i).result.lineErrors.count t).sum) ∧
      (∀ t, (catchUp world pages m).metrics.transferErrors t =
        m.transferErrors t + ((List.range k).map fun i => (world i).result.transferErrors.count t).sum) ∧
      (catchUp world pages m).metrics.catchupPagesLeft =
        if k = pages.length then 0 else if k = 0 then m.catchupPagesLeft else (pages.length : Int) - k + 1 := by
  have hcounter : ∀ {proj inc}, Counter proj inc → proj (catchUp world pages m).metrics =
      proj m + ((List.range (passesMade world 0 pages)).map fun i => inc (world i).result).sum := fun hc => by
    rw [catchUp, catchUpFrom_counter world _ hc, List.range_eq_range']
  exact ⟨passesMade world 0 pages, passesMade_le world 0 pages,
    fun i hi => by simpa using passes_of_lt_passesMade world hi, fun h => by simpa using passes_passesMade world h,
    catchUpFrom_requests world _ 0 pages _, by simp [catchUp, catchUpFrom_disabled], hcounter counter_receipts,
    hcounter counter_successfulTransfers, fun t => hcounter (counter_lineErrors t),
    fun t => hcounter (counter_transferErrors t), by simp [catchUp, catchUpFrom_gauge]⟩

/-- `keep_up` makes its passes until a check of `DYNAMIC_RECEIPT_TRANSFER_ENABLED` fails (here for at most `fuel`
passes, the loop having no end of its own): every pass transfers, from the miners it reads, the `N_ACTIVE_PAGES` pages
ending at the current page it reads, newest first, and it raises `TransferIsDisabled` exactly when a check failed. Its
counters end raised by the results of the passes it made. Its sleeps are those of its passes, in order, and every pass
takes at least its interval: the time of its transfer and its sleep add up to the larger of that time and the
interval. -/
theorem keepUp_run (nActivePages : Nat) (world : Nat → KeepUpTick) (fuel : Nat) (m : Metrics) :
    ∃ k ≤ fuel, (∀ i < k, (world i).tick.passes = true) ∧ (k < fuel → (world k).tick.passes = false) ∧
      (keepUp nActivePages world fuel m).run.requests =
        (List.range k).map (fun i => ((world i).tick.miners, pagesEndingAt (world i).currentPage nActivePages)) ∧
      ((keepUp nActivePages world fuel m).run.disabled = true ↔ k < fuel) ∧
      (keepUp nActivePages world fuel m).run.metrics.receipts =
        m.receipts + ((List.range k).map fun i => (world i).tick.result.nReceipts).sum ∧
      (keepUp nActivePages world fuel m).run.metrics.successfulTransfers =
        m.successfulTransfers + ((List.range k).map fun i => (world i).tick.result.nSuccessfulTransfers).sum ∧
      (∀ t, (keepUp nActivePages world fuel m).run.metrics.lineErrors t =
        m.lineErrors t + ((List.range k).map fun i => (world i).tick.result.lineErrors.count t).sum) ∧
      (∀ t, (keepUp nActivePages world fuel m).run.metrics.transferErrors t =
        m.transferErrors t + ((List.range k).map fun i => (world i).tick.result.transferErrors.count t).sum) ∧
      (keepUp nActivePages world fuel m).sleeps = ((List.range k).map fun i => passSleep (world i)).flatten ∧
      ∀ i < k, (world i).elapsed + (passSleep (world i)).sum = max (world i).elapsed ((world i).interval : ℚ) := by
  have hcounter : ∀ {proj inc}, Counter proj inc → proj (keepUp nActivePages world fuel m).run.metrics =
      proj m + ((List.range (keepUpPasses world fuel 0)).map fun i => inc (world i).tick.result).sum := fun hc => by
    rw [keepUp, keepUpFrom_counter nActivePages world hc, List.range_eq_range']
  exact ⟨keepUpPasses world fuel 0, keepUpPasses_le world fuel 0,
    fun i hi => by simpa using passes_of_lt_keepUpPasses world hi,
    fun h => by simpa using passes_keepUpPasses world h, by simp [keepUp, keepUpFrom_requests, List.range_eq_range',
      activePages_eq], by simp [keepUp, keepUpFrom_disabled], hcounter counter_receipts,
    hcounter counter_successfulTransfers, fun t => hcounter (counter_lineErrors t),
    fun t => hcounter (counter_transferErrors t), by rw [keepUp, keepUpFrom_sleeps, List.nil_append, List.range_eq_range'],
    fun i _ => elapsed_add_passSleep (world i)⟩

end ComputeHorde
