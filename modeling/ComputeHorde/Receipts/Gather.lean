import ComputeHorde.Receipts.Transfer

/-!
# `run_in_loop`: the background catch-up and `keep_up` on one event loop

After its sweep of the hot pages, `run_in_loop` runs the catch-up of the cold pages and `keep_up` under one
`asyncio.gather`, and both write the command's metrics. Each writes only in stretches with no await inside: `catch_up`
sets `catchup_pages_left` after its check and pushes a result after its transfer, and `keep_up` pushes a result and sets
`miners` in one stretch. The event loop may run the two coroutines' stretches in any interleaving (`Interleaving`,
every merge of the two write lists that keeps each one's order).

`catchUpWrites` and `keepUpWrites` are the writes each loop makes, and replayed alone they give the metrics of
`catchUp` and `keepUp`. `gather_metrics`: in every interleaving the counters end as if the two loops had run one after
the other, and each gauge ends as the one coroutine that writes it leaves it; no update is lost.
-/

namespace ComputeHorde

/-- A write to the metrics in a stretch of a transfer loop between two awaits. -/
inductive MetricWrite where
  /-- `self.m_catchup_pages_left.set(v)`. -/
  | setCatchupPagesLeft (v : Int)
  /-- `self._push_common_metrics(result)`. -/
  | push (r : TransferResult)
  /-- `self._push_common_metrics(result)` and then `self.m_miners.set(n)`, with no await between them. -/
  | pushThenSetMiners (r : TransferResult) (n : Nat)

/-- What a write does to the metrics. -/
def MetricWrite.apply : MetricWrite → Metrics → Metrics
  | .setCatchupPagesLeft v, m => { m with catchupPagesLeft := v }
  | .push r, m => pushCommonMetrics m r
  | .pushThenSetMiners r n, m => { pushCommonMetrics m r with miners := n }

/-- The metrics after a list of writes, in order. -/
def applyWrites (ws : List MetricWrite) (m : Metrics) : Metrics :=
  ws.foldl (fun m w => w.apply m) m

/-- The metric writes of `catch_up` from pass `idx` on, in order: per pass the gauge and the push, and after the last
page the gauge `0`. -/
def catchUpWrites (world : Nat → Tick) (total : Nat) : Nat → List Int → List MetricWrite
  | _, [] => [.setCatchupPagesLeft 0]
  | idx, _ :: pages =>
    if (world idx).passes then
      .setCatchupPagesLeft ((total : Int) - idx) :: .push (world idx).result ::
        catchUpWrites world total (idx + 1) pages
    else []

/-- The metric writes of `keep_up` in `fuel` passes from pass `idx` on, in order: one per pass. -/
def keepUpWrites (world : Nat → KeepUpTick) : Nat → Nat → List MetricWrite
  | 0, _ => []
  | fuel + 1, idx =>
    if (world idx).tick.passes then
      .pushThenSetMiners (world idx).tick.result (world idx).tick.miners.length :: keepUpWrites world fuel (idx + 1)
    else []

/-- The orders in which the event loop can run two coroutines' stretches: every merge of the two lists that keeps
each one's order. -/
inductive Interleaving {α : Type} : List α → List α → List α → Prop
  | nil : Interleaving [] [] []
  | left {a : α} {l₁ l₂ l : List α} : Interleaving l₁ l₂ l → Interleaving (a :: l₁) l₂ (a :: l)
  | right {a : α} {l₁ l₂ l : List α} : Interleaving l₁ l₂ l → Interleaving l₁ (a :: l₂) (a :: l)

namespace Interleaving

variable {α : Type}

/-- Running the first coroutine to its end and then the second is an interleaving. -/
theorem append (l₁ l₂ : List α) : Interleaving l₁ l₂ (l₁ ++ l₂) := by
  induction l₁ with
  | nil =>
    induction l₂ with
    | nil => exact .nil
    | cons b l₂ ih => exact .right ih
  | cons a l₁ ih => exact .left ih

theorem swap {l₁ l₂ l : List α} (h : Interleaving l₁ l₂ l) : Interleaving l₂ l₁ l := by
  induction h with
  | nil => exact .nil
  | left _ ih => exact .right ih
  | right _ ih => exact .left ih

theorem sum_map {l₁ l₂ l : List α} (h : Interleaving l₁ l₂ l) (f : α → Nat) :
    (l.map f).sum = (l₁.map f).sum + (l₂.map f).sum := by
  induction h with
  | nil => rfl
  | left _ ih => simp only [List.map_cons, List.sum_cons, ih]; omega
  | right _ ih => simp only [List.map_cons, List.sum_cons, ih]; omega

/-- What only the first coroutine writes comes in its own order. -/
theorem filterMap_left {β : Type} {l₁ l₂ l : List α} (h : Interleaving l₁ l₂ l) (f : α → Option β)
    (h₂ : ∀ b ∈ l₂, f b = none) : l.filterMap f = l₁.filterMap f := by
  induction h with
  | nil => rfl
  | left _ ih => simp only [List.filterMap_cons, ih h₂]
  | right _ ih =>
    rw [List.filterMap_cons, h₂ _ (List.mem_cons_self _ _)]
    exact ih fun b hb => h₂ b (List.mem_cons_of_mem _ hb)

end Interleaving

namespace GatherAux

/-- The gauge value a write sets, if it sets `catchup_pages_left`. -/
def catchupGauge? : MetricWrite → Option Int
  | .setCatchupPagesLeft v => some v
  | _ => none

/-- The value a write sets, if it sets `miners`. -/
def minersGauge? : MetricWrite → Option Nat
  | .pushThenSetMiners _ n => some n
  | _ => none

/-- What a write adds to a counter that `_push_common_metrics` raises by `inc` of the result. -/
def MetricWrite.added (inc : TransferResult → Nat) : MetricWrite → Nat
  | .setCatchupPagesLeft _ => 0
  | .push r => inc r
  | .pushThenSetMiners r _ => inc r

theorem applyWrites_counter {proj : Metrics → Nat} {inc : TransferResult → Nat} (hc : TransferAux.Counter proj inc)
    (ws : List MetricWrite) (m : Metrics) :
    proj (applyWrites ws m) = proj m + (ws.map (MetricWrite.added inc)).sum := by
  induction ws generalizing m with
  | nil => simp [applyWrites]
  | cons w ws ih =>
    rw [applyWrites, List.foldl_cons, ← applyWrites, ih, List.map_cons, List.sum_cons]
    cases w <;> simp only [MetricWrite.apply, MetricWrite.added, hc.setCatchupPagesLeft, hc.push, hc.setMiners] <;>
      omega

/-- A gauge ends at the last value written to it, or where it was when nothing writes it. -/
theorem applyWrites_catchupPagesLeft (ws : List MetricWrite) (m : Metrics) :
    (applyWrites ws m).catchupPagesLeft = (ws.filterMap catchupGauge?).getLastD m.catchupPagesLeft := by
  induction ws generalizing m with
  | nil => rfl
  | cons w ws ih =>
    rw [applyWrites, List.foldl_cons, ← applyWrites, ih]
    cases w <;> simp only [List.filterMap_cons, catchupGauge?, minersGauge?, List.getLastD_cons] <;> rfl

theorem applyWrites_miners (ws : List MetricWrite) (m : Metrics) :
    (applyWrites ws m).miners = (ws.filterMap minersGauge?).getLastD m.miners := by
  induction ws generalizing m with
  | nil => rfl
  | cons w ws ih =>
    rw [applyWrites, List.foldl_cons, ← applyWrites, ih]
    cases w <;> simp only [List.filterMap_cons, catchupGauge?, minersGauge?, List.getLastD_cons] <;> rfl

/-- Replayed alone, the writes of `catch_up` give its metrics. -/
theorem applyWrites_catchUpWrites (world : Nat → Tick) (total idx : Nat) (pages : List Int) (run : TransferRun) :
    applyWrites (catchUpWrites world total idx pages) run.metrics = (catchUpFrom world total idx pages run).metrics := by
  induction pages generalizing idx run with
  | nil => rfl
  | cons p pages ih =>
    simp only [catchUpWrites, catchUpFrom]
    split
    · rw [← ih]
      rfl
    · rfl

/-- Replayed alone, the writes of `keep_up` give its metrics. -/
theorem applyWrites_keepUpWrites (nActivePages : Nat) (world : Nat → KeepUpTick) (fuel idx : Nat) (k : KeepUpRun) :
    applyWrites (keepUpWrites world fuel idx) k.run.metrics = (keepUpFrom nActivePages world fuel idx k).run.metrics := by
  induction fuel generalizing idx k with
  | zero => rfl
  | succ fuel ih =>
    simp only [keepUpWrites, keepUpFrom]
    split
    · rw [← ih]
      rfl
    · rfl

theorem catchupGauge?_keepUpWrites (world : Nat → KeepUpTick) (fuel idx : Nat) :
    ∀ w ∈ keepUpWrites world fuel idx, catchupGauge? w = none := by
  induction fuel generalizing idx with
  | zero => simp [keepUpWrites]
  | succ fuel ih =>
    simp only [keepUpWrites]
    split
    · simpa [catchupGauge?] using ih (idx + 1)
    · simp

theorem minersGauge?_catchUpWrites (world : Nat → Tick) (total idx : Nat) (pages : List Int) :
    ∀ w ∈ catchUpWrites world total idx pages, minersGauge? w = none := by
  induction pages generalizing idx with
  | nil => simp [catchUpWrites, minersGauge?]
  | cons p pages ih =>
    simp only [catchUpWrites]
    split
    · simpa [minersGauge?] using ih (idx + 1)
    · simp

end GatherAux

open TransferAux GatherAux

/-- Under `asyncio.gather`, in whatever order the event loop runs the two coroutines' stretches, the counters end as if
the background catch-up and `keep_up` had each run alone from the same metrics and their increments had been added,
every `exc_type` label included, and each gauge ends as the one coroutine that writes it leaves it: `catchup_pages_left`
as the catch-up, `miners` as `keep_up`. No update is lost. -/
theorem gather_metrics (nActivePages : Nat) (cw : Nat → Tick) (cold : List Int) (kw : Nat → KeepUpTick) (fuel : Nat)
    (m : Metrics) (l : List MetricWrite)
    (hl : Interleaving (catchUpWrites cw cold.length 0 cold) (keepUpWrites kw fuel 0) l) :
    (applyWrites l m).receipts + m.receipts =
      (catchUp cw cold m).metrics.receipts + (keepUp nActivePages kw fuel m).run.metrics.receipts ∧
    (applyWrites l m).successfulTransfers + m.successfulTransfers =
      (catchUp cw cold m).metrics.successfulTransfers + (keepUp nActivePages kw fuel m).run.metrics.successfulTransfers ∧
    (∀ t, (applyWrites l m).lineErrors t + m.lineErrors t =
      (catchUp cw cold m).metrics.lineErrors t + (keepUp nActivePages kw fuel m).run.metrics.lineErrors t) ∧
    (∀ t, (applyWrites l m).transferErrors t + m.transferErrors t =
      (catchUp cw cold m).metrics.transferErrors t + (keepUp nActivePages kw fuel m).run.metrics.transferErrors t) ∧
    (applyWrites l m).catchupPagesLeft = (catchUp cw cold m).metrics.catchupPagesLeft ∧
    (applyWrites l m).miners = (keepUp nActivePages kw fuel m).run.metrics.miners := by
  have hc : (catchUp cw cold m).metrics = applyWrites (catchUpWrites cw cold.length 0 cold) m :=
    (applyWrites_catchUpWrites cw cold.length 0 cold ⟨[], m, false⟩).symm
  have hk : (keepUp nActivePages kw fuel m).run.metrics = applyWrites (keepUpWrites kw fuel 0) m :=
    (applyWrites_keepUpWrites nActivePages kw fuel 0 ⟨⟨[], m, false⟩, []⟩).symm
  have hcount : ∀ {proj inc}, Counter proj inc →
      proj (applyWrites l m) + proj m = proj (catchUp cw cold m).metrics + proj (keepUp nActivePages kw fuel m).run.metrics := by
    intro proj inc hcounter
    rw [hc, hk, applyWrites_counter hcounter, applyWrites_counter hcounter, applyWrites_counter hcounter, hl.sum_map]
    omega
  refine ⟨hcount counter_receipts, hcount counter_successfulTransfers, fun t => hcount (counter_lineErrors t),
    fun t => hcount (counter_transferErrors t), ?_, ?_⟩
  · rw [hc, applyWrites_catchupPagesLeft, applyWrites_catchupPagesLeft,
      hl.filterMap_left _ (catchupGauge?_keepUpWrites kw fuel 0)]
  · rw [hk, applyWrites_miners, applyWrites_miners,
      hl.swap.filterMap_left _ (minersGauge?_catchUpWrites cw cold.length 0 cold)]

/-- A catch-up world whose every pass goes on and transfers one receipt with one `ValueError` line error. -/
def catchUpWorldOne : Nat → Tick :=
  fun _ => ⟨some true, [], ⟨1, 1, [], ["ValueError"]⟩⟩

/-- A `keep_up` world whose every pass goes on and transfers two receipts from one miner in three seconds of ten. -/
def keepUpWorldOne : Nat → KeepUpTick :=
  fun _ => ⟨⟨some true, [⟨"hotkey", "127.0.0.1", 8000⟩], ⟨2, 1, [], []⟩⟩, 10, 7, 3⟩

/-- Metrics at zero. -/
def Metrics.zero : Metrics :=
  ⟨0, 0, fun _ => 0, fun _ => 0, 0, 0⟩

/-- One cold page and one pass of `keep_up`, the catch-up run first. -/
theorem gather_metrics_one_each :
    Interleaving (catchUpWrites catchUpWorldOne [7].length 0 [7]) (keepUpWrites keepUpWorldOne 1 0)
      (catchUpWrites catchUpWorldOne [7].length 0 [7] ++ keepUpWrites keepUpWorldOne 1 0) ∧
    ((applyWrites (catchUpWrites catchUpWorldOne [7].length 0 [7] ++ keepUpWrites keepUpWorldOne 1 0)
        Metrics.zero).receipts + Metrics.zero.receipts =
      (catchUp catchUpWorldOne [7] Metrics.zero).metrics.receipts +
        (keepUp 2 keepUpWorldOne 1 Metrics.zero).run.metrics.receipts ∧
    (applyWrites (catchUpWrites catchUpWorldOne [7].length 0 [7] ++ keepUpWrites keepUpWorldOne 1 0)
        Metrics.zero).successfulTransfers + Metrics.zero.successfulTransfers =
      (catchUp catchUpWorldOne [7] Metrics.zero).metrics.successfulTransfers +
        (keepUp 2 keepUpWorldOne 1 Metrics.zero).run.metrics.successfulTransfers ∧
    (∀ t, (applyWrites (catchUpWrites catchUpWorldOne [7].length 0 [7] ++ keepUpWrites keepUpWorldOne 1 0)
        Metrics.zero).lineErrors t + Metrics.zero.lineErrors t =
      (catchUp catchUpWorldOne [7] Metrics.zero).metrics.lineErrors t +
        (keepUp 2 keepUpWorldOne 1 Metrics.zero).run.metrics.lineErrors t) ∧
    (∀ t, (applyWrites (catchUpWrites catchUpWorldOne [7].length 0 [7] ++ keepUpWrites keepUpWorldOne 1 0)
        Metrics.zero).transferErrors t + Metrics.zero.transferErrors t =
      (catchUp catchUpWorldOne [7] Metrics.zero).metrics.transferErrors t +
        (keepUp 2 keepUpWorldOne 1 Metrics.zero).run.metrics.transferErrors t) ∧
    (applyWrites (catchUpWrites catchUpWorldOne [7].length 0 [7] ++ keepUpWrites keepUpWorldOne 1 0)
        Metrics.zero).catchupPagesLeft = (catchUp catchUpWorldOne [7] Metrics.zero).metrics.catchupPagesLeft ∧
    (applyWrites (catchUpWrites catchUpWorldOne [7].length 0 [7] ++ keepUpWrites keepUpWorldOne 1 0)
        Metrics.zero).miners = (keepUp 2 keepUpWorldOne 1 Metrics.zero).run.metrics.miners) :=
  ⟨Interleaving.append _ _, gather_metrics 2 catchUpWorldOne [7] keepUpWorldOne 1 Metrics.zero _ (Interleaving.append _ _)⟩

end ComputeHorde
