import ComputeHorde.Precache.World

/-!
# Where a submitted prefetch task can go

A worker whose read of a task `(k, b)` ends in any error, not only `ArchiveSubtensorNotConfigured`, abandons the task
(`except Exception: logger.error(...); time.sleep(1)`) and takes the next; nothing puts it back, and the producer never
submits a block twice. `neurons_task_lost` is such a run: the lite node fails once on the neurons of block 5, and that
task is then in neither the cache nor the queue, held by no worker, with the instance still open.

`submitted_task_accounted`: in every run, every submitted task is in the shared cache, in the queue, held by a worker,
or among the abandoned tasks, and an abandoned task is never queued or held again. The cache only gains entries, a
busy worker is at a stage of `workerFill`, and no task is in flight more often than it was submitted (`TasksOnce`).
-/

namespace ComputeHorde

/-! ## Where a task can be -/

/-- The task a worker holds, if it is busy. -/
def Worker.task? : Worker → Option (Kind × Int)
  | .busy k b _ _ => some (k, b)
  | _ => none

/-- Every entry of `cache` is still in `cache'`. -/
def CacheGrows (cache cache' : InMemoryCache) : Prop :=
  ∀ k b, (cache.get k b).isSome → (cache'.get k b).isSome

/-- The stages of `workerFill k b read` before it finishes: the lookup, and the rest of the read followed by the put
(just before the put, the rest of the read is `done (.ok v)`). -/
inductive FillStage (k : Kind) (b : Int) : Prog Unit → Prop where
  | start (read : Prog k.Val) : FillStage k b (PrecachingSuperTensor.workerFill k b read)
  | reading (r : Prog k.Val) : FillStage k b (r.bind fun v => .cachePut k b v (pure ()))

/-- A busy worker's program for `(k, b)`: at a stage of `workerFill`, or finished without an error with the entry
in the cache. -/
def BusyOk (cache : InMemoryCache) (k : Kind) (b : Int) (p : Prog Unit) : Prop :=
  FillStage k b p ∨ (p = .done (.ok ()) ∧ (cache.get k b).isSome)

/-- Every busy worker's program is `BusyOk`. -/
def WorkerOk (cache : InMemoryCache) : Worker → Prop
  | .busy k b _ p => BusyOk cache k b p
  | _ => True

/-- Where a task `(k, b)` of an instance can be: in the shared cache, in the queue, held by a worker, or abandoned by a
worker with an error. -/
def Accounted (cache : InMemoryCache) (inst : Instance) (k : Kind) (b : Int) : Prop :=
  (cache.get k b).isSome ∨ (.datum k, b) ∈ inst.taskQueue ∨ (∃ wk ∈ inst.workers, wk.task? = some (k, b)) ∨
    ∃ e, (k, b, e) ∈ inst.dropped

/-- The invariant of an instance: its busy workers are `BusyOk` and every task it submitted is accounted for. -/
structure InstanceKeeps (cache : InMemoryCache) (inst : Instance) : Prop where
  workers : ∀ wk ∈ inst.workers, WorkerOk cache wk
  submitted : ∀ k b, (.datum k, b) ∈ inst.submitted → Accounted cache inst k b

namespace TaskLossAux

variable {c : Chain}

theorem cacheGrows_refl (cache : InMemoryCache) : CacheGrows cache cache := fun _ _ h => h

theorem cacheGrows_put (cache : InMemoryCache) (k : Kind) (b : Int) (v : k.Val) : CacheGrows cache (cache.put k b v) := by
  intro k' b' h
  by_cases hkb : k' = k ∧ b' = b
  · obtain ⟨rfl, rfl⟩ := hkb
    simp
  · rwa [InMemoryCache.get_put_of_ne _ _ (by tauto)]

/-- One effect of any program only adds to the cache. -/
theorem Prog.step_cache_grows {α : Type} (p : Prog α) (reply : Reply) (ctx : Ctx) :
    CacheGrows ctx.cache (p.step c reply ctx).2.cache := by
  cases p with
  | cachePut k b v cont => exact cacheGrows_put _ k b v
  | _ => exact cacheGrows_refl _

/-- One effect of `p.bindE g`, while `p` has not finished, is one effect of `p`. -/
theorem step_bindE {α β : Type} {p : Prog α} (hp : p.result? = none) (g : Except ReadError α → Prog β) (reply : Reply)
    (ctx : Ctx) : (p.bindE g).step c reply ctx = ((p.step c reply ctx).1.bindE g, (p.step c reply ctx).2) := by
  cases p <;> first | rfl | cases hp

end TaskLossAux

open TaskLossAux

/-! ## The stages of a busy worker -/

section Stages

variable {c : Chain}

theorem busyOk_mono {cache cache' : InMemoryCache} (hg : CacheGrows cache cache') {k : Kind} {b : Int} {p : Prog Unit}
    (h : BusyOk cache k b p) : BusyOk cache' k b p :=
  h.imp_right fun ⟨hp, hs⟩ => ⟨hp, hg k b hs⟩

theorem workerOk_mono {cache cache' : InMemoryCache} (hg : CacheGrows cache cache') :
    ∀ {wk : Worker}, WorkerOk cache wk → WorkerOk cache' wk
  | .busy _ _ _ _, h => busyOk_mono hg h
  | .idle _, _ => trivial
  | .quit, _ => trivial

theorem accounted_mono {cache cache' : InMemoryCache} (hg : CacheGrows cache cache') {inst : Instance} {k : Kind}
    {b : Int} (h : Accounted cache inst k b) : Accounted cache' inst k b :=
  h.imp_left (hg k b)

theorem InstanceKeeps.mono {cache cache' : InMemoryCache} (hg : CacheGrows cache cache') {inst : Instance}
    (h : InstanceKeeps cache inst) : InstanceKeeps cache' inst :=
  ⟨fun wk hwk => workerOk_mono hg (h.workers wk hwk), fun k b hs => accounted_mono hg (h.submitted k b hs)⟩

/-- A finished `BusyOk` program that did not fail left its entry in the cache. -/
theorem BusyOk.cached {cache : InMemoryCache} {k : Kind} {b : Int} {p : Prog Unit} (h : BusyOk cache k b p)
    {u : Unit} (hp : p.result? = some (.ok u)) : (cache.get k b).isSome := by
  rcases h with h | ⟨-, hs⟩
  · cases h with
    | start read => cases hp
    | reading r => cases r with
      | done r => cases r <;> cases hp
      | _ => cases hp
  · exact hs

/-- One effect keeps a busy worker's program `BusyOk`, against the cache that effect leaves. -/
theorem BusyOk.step {cache : InMemoryCache} {k : Kind} {b : Int} {p : Prog Unit} (h : BusyOk cache k b p)
    (hp : p.result? = none) (reply : Reply) (nl : NeuronListCache) (pr : Producer) :
    BusyOk (p.step c reply ⟨cache, nl, pr⟩).2.cache k b (p.step c reply ⟨cache, nl, pr⟩).1 := by
  rcases h with h | ⟨rfl, -⟩
  · cases h with
    | start read =>
      cases hg : cache.get k b with
      | none =>
        left
        simp only [Prog.step, PrecachingSuperTensor.workerFill, hg]
        exact .reading read
      | some v =>
        right
        simp only [Prog.step, PrecachingSuperTensor.workerFill, hg]
        exact ⟨rfl, by simp [hg]⟩
    | reading r =>
      cases r with
      | done r =>
        cases r with
        | error e => cases hp
        | ok v => exact .inr ⟨rfl, by simp [Prog.step]⟩
      | _ => exact .inl (by rw [Prog.bind, step_bindE] <;> first | exact .reading _ | rfl)
  · cases hp

end Stages

namespace TaskLossAux

/-- An element of a list is in it after one position is replaced, or it was the element at that position. -/
theorem mem_set_or_eq {α : Type} {l : List α} {a : α} (ha : a ∈ l) (i : Nat) (x : α) :
    a ∈ l.set i x ∨ l[i]? = some a := by
  obtain ⟨j, hj⟩ := List.getElem?_of_mem ha
  by_cases hij : i = j
  · exact .inr (hij ▸ hj)
  · exact .inl (List.getElem?_mem (by rw [List.getElem?_set_ne hij, hj]))

theorem mem_set_self {α : Type} {l : List α} {i : Nat} {y : α} (hi : l[i]? = some y) (x : α) : x ∈ l.set i x :=
  List.mem_set l i (List.getElem?_eq_some_iff.1 hi).1 x

/-- Replacing worker `wi`, which held task `t?`, by one that holds `t'?`: a task held before is held after, unless it
is `t?`. -/
theorem held_set {ws : List Worker} {wi : Nat} {y : Worker} (hy : ws[wi]? = some y) (x : Worker) {t : Kind × Int}
    (h : ∃ wk ∈ ws, wk.task? = some t) : (∃ wk ∈ ws.set wi x, wk.task? = some t) ∨ y.task? = some t := by
  obtain ⟨wk, hwk, ht⟩ := h
  rcases mem_set_or_eq hwk wi x with h | h
  · exact .inl ⟨wk, h, ht⟩
  · rw [hy] at h
    cases h
    exact .inr ht

/-- The task a worker takes is at the start of `workerFill`. -/
theorem workerTask_stage (hasArchive : Bool) (k : Kind) (b : Int) :
    FillStage k b (PrecachingSuperTensor.workerTask hasArchive k b) := by
  cases k <;> exact .start _

end TaskLossAux

/-! ## Every step keeps a task accounted for -/

section Accounting

/-- A task that was accounted for in an instance still is in another whose queue, workers and abandoned tasks cover
those of the first. -/
theorem Accounted.transfer {cache : InMemoryCache} {inst inst' : Instance} {k : Kind} {b : Int}
    (h : Accounted cache inst k b) (hq : (.datum k, b) ∈ inst.taskQueue → Accounted cache inst' k b)
    (hw : ∀ wk ∈ inst.workers, wk.task? = some (k, b) → Accounted cache inst' k b)
    (hd : ∀ e, (k, b, e) ∈ inst.dropped → (k, b, e) ∈ inst'.dropped) : Accounted cache inst' k b := by
  rcases h with h | h | ⟨wk, hwk, ht⟩ | ⟨e, he⟩
  · exact .inl h
  · exact hq h
  · exact hw wk hwk ht
  · exact .inr (.inr (.inr ⟨e, hd e he⟩))

theorem held_accounted {cache : InMemoryCache} {inst : Instance} {k : Kind} {b : Int} {wk : Worker}
    (hwk : wk ∈ inst.workers) (ht : wk.task? = some (k, b)) : Accounted cache inst k b :=
  .inr (.inr (.inl ⟨wk, hwk, ht⟩))

theorem queued_accounted {cache : InMemoryCache} {inst : Instance} {k : Kind} {b : Int}
    (hq : (.datum k, b) ∈ inst.taskQueue) : Accounted cache inst k b :=
  .inr (.inl hq)

/-- Replacing worker `wi`, the queue and the abandoned tasks keeps every task accounted for, when each queued task is
still queued or held by the new worker, no abandoned task is forgotten, and the old worker's task is in the cache, held
by the new worker, or abandoned. -/
theorem InstanceKeeps.setWorker {cache : InMemoryCache} {inst : Instance} (h : InstanceKeeps cache inst) {wi : Nat}
    {y : Worker} (hy : inst.workers[wi]? = some y) (x : Worker) (hx : WorkerOk cache x) (q : List (TaskType × Int))
    (dropped : List (Kind × Int × ReadError))
    (hq : ∀ k b, (.datum k, b) ∈ inst.taskQueue → (.datum k, b) ∈ q ∨ x.task? = some (k, b))
    (hd : ∀ t ∈ inst.dropped, t ∈ dropped)
    (hown : ∀ k b, y.task? = some (k, b) → (cache.get k b).isSome ∨ x.task? = some (k, b) ∨ ∃ e, (k, b, e) ∈ dropped) :
    InstanceKeeps cache { inst with taskQueue := q, workers := inst.workers.set wi x, dropped := dropped } := by
  refine ⟨forall_mem_set h.workers wi x hx, fun k b hs => (h.submitted k b hs).transfer ?queued ?held fun _ he => hd _ he⟩
  case queued =>
    intro hmem
    rcases hq k b hmem with hmem | ht
    · exact queued_accounted hmem
    · exact held_accounted (mem_set_self hy x) ht
  case held =>
    intro wk hwk ht
    rcases held_set hy x ⟨wk, hwk, ht⟩ with ⟨wk', hwk', ht'⟩ | ht
    · exact held_accounted hwk' ht'
    · rcases hown k b ht with hk | hk | ⟨e, he⟩
      · exact .inl hk
      · exact held_accounted (mem_set_self hy x) hk
      · exact .inr (.inr (.inr ⟨e, he⟩))

/-- An idle worker that takes the next task, or quits, keeps every task accounted for. -/
theorem instanceKeeps_takeTask {cache : InMemoryCache} {inst : Instance} (h : InstanceKeeps cache inst) {wi : Nat}
    {nl : NeuronListCache} (hwi : inst.workers[wi]? = some (.idle nl)) : InstanceKeeps cache (World.takeTask inst wi nl) := by
  unfold World.takeTask
  split_ifs
  · exact h.setWorker hwi .quit trivial _ _ (fun _ _ hq => .inl hq) (fun _ ht => ht) nofun
  · split
    · exact h
    · rename_i x rest heq
      refine h.setWorker hwi .quit trivial rest _ (fun k b hq => .inl ?_) (fun _ ht => ht) nofun
      rw [heq] at hq
      simpa using hq
    · rename_i k' b' rest heq
      refine h.setWorker hwi (.busy k' b' nl _) (.inl (workerTask_stage _ _ _)) rest _ (fun k b hq => ?_)
        (fun _ ht => ht) nofun
      rw [heq] at hq
      rcases List.mem_cons.1 hq with hq | hq
      · cases hq
        exact .inr rfl
      · exact .inl hq

end Accounting

/-! ## Every run keeps every task accounted for -/

/-- Every instance of the world keeps its tasks accounted for. -/
def KeepsTasks (w : World) : Prop := ∀ inst ∈ w.instances, InstanceKeeps w.cache inst

section Run

variable {c : Chain}

theorem keepsTasks_init (configs : List Config) : KeepsTasks (World.init configs) := by
  intro inst h
  obtain ⟨cfg, -, rfl⟩ := List.mem_map.1 h
  refine ⟨fun wk hwk => ?_, fun _ _ hs => by cases hs⟩
  simp only [Instance.init] at hwk
  split_ifs at hwk
  · rw [List.eq_of_mem_replicate hwk]
    trivial
  · cases hwk

theorem KeepsTasks.update {w : World} (h : KeepsTasks w) {cache : InMemoryCache} (hg : CacheGrows w.cache cache)
    (i : Nat) {inst : Instance} (hi : InstanceKeeps cache inst) : ∀ x ∈ w.instances.set i inst, InstanceKeeps cache x :=
  forall_mem_set (fun x hx => (h x hx).mono hg) i inst hi

theorem keepsTasks_start {w : World} (h : KeepsTasks w) (i : Nat) (q : Query) : KeepsTasks (w.start i q) := by
  unfold World.start
  split
  · exact h
  · exact h

theorem keepsTasks_stepCall {w : World} (h : KeepsTasks w) (j : Nat) (reply : Reply) :
    KeepsTasks (w.stepCall c j reply) := by
  unfold World.stepCall
  split
  · exact h
  · rename_i call _
    split
    · exact h
    · split
      · exact h
      · rename_i inst hinst
        have hg := Prog.step_cache_grows (c := c) call.prog reply ⟨w.cache, inst.neuronList, inst.producer⟩
        have hi := (h inst (List.getElem?_mem hinst)).mono hg
        exact h.update hg _ ⟨hi.workers, hi.submitted⟩

theorem keepsTasks_stepWorker {w : World} (h : KeepsTasks w) (i wi : Nat) (reply : Reply) :
    KeepsTasks (w.stepWorker c i wi reply) := by
  unfold World.stepWorker
  split
  · exact h
  · rename_i inst hinst
    have hi := h inst (List.getElem?_mem hinst)
    split
    · exact h
    · exact h
    · rename_i nl hwk
      exact h.update (cacheGrows_refl _) i (instanceKeeps_takeTask hi hwk)
    · rename_i k b nl p hwi
      have hp : BusyOk w.cache k b p := hi.workers _ (List.getElem?_mem hwi)
      split
      · rename_i u hr
        exact h.update (cacheGrows_refl _) i <| hi.setWorker hwi (.idle _) trivial _ _ (fun _ _ hq => .inl hq)
          (fun _ ht => ht) fun _ _ ht => by cases ht; exact .inl (BusyOk.cached hp hr)
      · rename_i e hr
        exact h.update (cacheGrows_refl _) i <| hi.setWorker hwi (.idle _) trivial _ _ (fun _ _ hq => .inl hq)
          (fun _ ht => List.mem_append_left _ ht)
          fun _ _ ht => by cases ht; exact .inr (.inr ⟨e, List.mem_append_right _ (List.mem_singleton_self _)⟩)
      · rename_i hr
        have hg := Prog.step_cache_grows (c := c) p reply ⟨w.cache, nl, inst.producer⟩
        have hx := hp.step (c := c) hr reply nl inst.producer
        have := (hi.mono hg).setWorker hwi (.busy k b (p.step c reply ⟨w.cache, nl, inst.producer⟩).2.neuronList _) hx
          _ _ (fun _ _ hq => .inl hq) (fun _ ht => ht) fun _ _ ht => by cases ht; exact .inr (.inl rfl)
        exact h.update hg i ⟨this.workers, this.submitted⟩

theorem keepsTasks_produce {w : World} (h : KeepsTasks w) (i : Nat) (cb : Option Int) :
    KeepsTasks (w.produce i cb) := by
  unfold World.produce
  split
  · exact h
  · rename_i inst hinst
    have hi := h inst (List.getElem?_mem hinst)
    split_ifs
    · refine h.update (cacheGrows_refl _) i ⟨hi.workers, fun k b hs => ?_⟩
      rcases List.mem_append.1 hs with hs | hs
      · exact (hi.submitted k b hs).transfer (fun hq => queued_accounted (List.mem_append_left _ hq))
          (fun wk hwk ht => held_accounted hwk ht) fun _ he => he
      · exact queued_accounted (List.mem_append_right _ hs)
    · exact h

theorem keepsTasks_close {w : World} (h : KeepsTasks w) (i : Nat) : KeepsTasks (w.close i) := by
  unfold World.close
  split
  · exact h
  · rename_i inst hinst
    have hi := h inst (List.getElem?_mem hinst)
    refine h.update (cacheGrows_refl _) i ⟨hi.workers, fun k b hs => (hi.submitted k b hs).transfer
      (fun hq => queued_accounted ?_) (fun wk hwk ht => held_accounted hwk ht) fun _ he => he⟩
    dsimp only
    split_ifs
    · exact List.mem_append_left _ hq
    · exact hq

/-- Every event keeps every task accounted for. -/
theorem keepsTasks_step {w : World} (h : KeepsTasks w) : ∀ e, KeepsTasks (World.step c w e)
  | .start i q => keepsTasks_start h i q
  | .call j reply => keepsTasks_stepCall h j reply
  | .work i wi reply => keepsTasks_stepWorker h i wi reply
  | .produce i cb => keepsTasks_produce h i cb
  | .close i => keepsTasks_close h i

theorem keepsTasks_foldl (evs : List Event) : ∀ w, KeepsTasks w → KeepsTasks (evs.foldl (World.step c) w) := by
  induction evs with
  | nil => exact fun _ h => h
  | cons e evs ih => exact fun w h => ih _ (keepsTasks_step h e)

end Run

/-! ## Each task once: an abandoned task is not retried -/

/-- The data task a queue entry holds (`THE_END` holds none). -/
def queued? : TaskType × Int → Option (Kind × Int)
  | (.datum k, b) => some (k, b)
  | (.theEnd, _) => none

/-- The tasks of an instance in flight or abandoned: queued, held by a worker, or dropped by one. -/
def Instance.inFlight (inst : Instance) : List (Kind × Int) :=
  inst.taskQueue.filterMap queued? ++ inst.workers.filterMap Worker.task? ++ inst.dropped.map fun d => (d.1, d.2.1)

/-- The producer of an instance has walked the blocks of the tasks it submitted, and no task is in flight or abandoned
more often than it was submitted. -/
structure TasksOnce (inst : Instance) : Prop where
  producer : ∃ first, ProducerInv first inst.producer inst.submitted
  once : ∀ t, inst.inFlight.count t ≤ (inst.submitted.filterMap queued?).count t

namespace TaskLossAux

variable {c : Chain}

theorem filterMap_cons_toList {α β : Type} (f : α → Option β) (a : α) (l : List α) :
    (a :: l).filterMap f = (f a).toList ++ l.filterMap f := by
  cases h : f a <;> simp [List.filterMap_cons, h]

/-- Replacing the element at `i` replaces what it contributes to a `filterMap`. -/
theorem count_filterMap_set {α β : Type} [BEq β] (f : α → Option β) :
    ∀ {l : List α} {i : Nat} {y : α}, l[i]? = some y → ∀ (x : α) (t : β),
      ((l.set i x).filterMap f).count t + (f y).toList.count t = (l.filterMap f).count t + (f x).toList.count t
  | [], _, _, hy => by simp at hy
  | z :: l, 0, y, hy => fun x t => by
    simp only [List.getElem?_cons_zero, Option.some.injEq] at hy
    subst hy
    simp only [List.set_cons_zero, filterMap_cons_toList, List.count_append]
    omega
  | z :: l, i + 1, y, hy => fun x t => by
    simp only [List.getElem?_cons_succ] at hy
    have := count_filterMap_set f hy x t
    simp only [List.set_cons_succ, filterMap_cons_toList, List.count_append]
    omega

theorem count_le_one_of_nodup {α : Type} [BEq α] [LawfulBEq α] {l : List α} (h : l.Nodup) (a : α) : l.count a ≤ 1 := by
  induction l with
  | nil => simp
  | cons x l ih =>
    obtain ⟨hx, hl⟩ := List.nodup_cons.1 h
    by_cases hxa : x = a
    · subst hxa
      simp [List.count_eq_zero.2 hx]
    · simpa [List.count_cons, hxa] using ih hl

theorem nodup_of_count_le_one {α : Type} [BEq α] [LawfulBEq α] {l : List α} (h : ∀ a, l.count a ≤ 1) : l.Nodup := by
  induction l with
  | nil => exact List.nodup_nil
  | cons x l ih =>
    have hx := h x
    rw [List.count_cons_self] at hx
    exact List.nodup_cons.2 ⟨List.count_eq_zero.1 (by omega),
      ih fun a => (List.count_le_count_cons a x l).trans (h a)⟩

/-- A thread's effect changes its instance's producer only by `set_starting_block`. -/
theorem Prog.step_producer {α : Type} (p : Prog α) (reply : Reply) (ctx : Ctx) :
    (p.step c reply ctx).2.producer = ctx.producer ∨ ∃ b, (p.step c reply ctx).2.producer = ctx.producer.setStartingBlock b := by
  cases p with
  | setStartingBlock b cont => exact .inr ⟨b, rfl⟩
  | _ => exact .inl rfl

theorem producerInv_step {inst : Instance} (h : ∃ first, ProducerInv first inst.producer inst.submitted) {p : Producer}
    (hp : p = inst.producer ∨ ∃ b, p = inst.producer.setStartingBlock b) : ∃ first, ProducerInv first p inst.submitted := by
  obtain ⟨first, hf⟩ := h
  rcases hp with rfl | ⟨b, rfl⟩
  · exact ⟨first, hf⟩
  · exact ⟨_, ProducerAux.inv_request hf b⟩

end TaskLossAux

open TaskLossAux

section Once

variable {c : Chain}

/-- A step of worker `wi` that replaces it, the queue, the abandoned tasks and the producer keeps each task once, when
the new queue, worker and abandoned tasks hold no task more often than the old ones did. -/
theorem TasksOnce.update {inst : Instance} (h : TasksOnce inst) {wi : Nat} {y : Worker} (hy : inst.workers[wi]? = some y)
    (x : Worker) (q : List (TaskType × Int)) (dropped : List (Kind × Int × ReadError)) {p : Producer}
    (hp : p = inst.producer ∨ ∃ b, p = inst.producer.setStartingBlock b)
    (hq : ∀ t, (q.filterMap queued?).count t + x.task?.toList.count t + (dropped.map fun d => (d.1, d.2.1)).count t ≤
      (inst.taskQueue.filterMap queued?).count t + y.task?.toList.count t +
        (inst.dropped.map fun d => (d.1, d.2.1)).count t) :
    TasksOnce { inst with taskQueue := q, workers := inst.workers.set wi x, dropped := dropped, producer := p } := by
  refine ⟨producerInv_step h.producer hp, fun t => ?_⟩
  have hset := count_filterMap_set Worker.task? hy x t
  have := h.once t
  simp only [Instance.inFlight, List.count_append] at this ⊢
  have := hq t
  omega

theorem tasksOnce_takeTask {inst : Instance} (h : TasksOnce inst) {wi : Nat} {nl : NeuronListCache}
    (hwi : inst.workers[wi]? = some (.idle nl)) : TasksOnce (World.takeTask inst wi nl) := by
  unfold World.takeTask
  split_ifs
  · exact h.update hwi .quit _ _ (.inl rfl) fun _ => le_refl _
  · split
    · exact h
    · rename_i x rest heq
      refine h.update hwi .quit rest _ (.inl rfl) fun t => ?_
      simp [heq, queued?, Worker.task?]
    · rename_i k b rest heq
      refine h.update hwi (.busy k b nl _) rest _ (.inl rfl) fun t => ?_
      simp only [heq, filterMap_cons_toList, queued?, Worker.task?, List.count_append]
      omega

theorem tasksOnce_init (cfg : Config) : TasksOnce (Instance.init cfg) := by
  refine ⟨⟨none, rfl, rfl⟩, fun t => ?_⟩
  simp only [Instance.init, Instance.inFlight]
  split_ifs <;> simp [List.filterMap_replicate, Worker.task?]

/-- Every instance of the world keeps each task once. -/
def OnceAll (w : World) : Prop := ∀ inst ∈ w.instances, TasksOnce inst

theorem OnceAll.update {w : World} (h : OnceAll w) (i : Nat) {inst : Instance} (hi : TasksOnce inst) :
    ∀ x ∈ w.instances.set i inst, TasksOnce x :=
  forall_mem_set h i inst hi

theorem onceAll_stepCall {w : World} (h : OnceAll w) (j : Nat) (reply : Reply) : OnceAll (w.stepCall c j reply) := by
  unfold World.stepCall
  split
  · exact h
  · rename_i call _
    split
    · exact h
    · split
      · exact h
      · rename_i inst hinst
        have hi := h inst (List.getElem?_mem hinst)
        exact h.update _ ⟨producerInv_step hi.producer (Prog.step_producer call.prog reply _), hi.once⟩

theorem onceAll_stepWorker {w : World} (h : OnceAll w) (i wi : Nat) (reply : Reply) :
    OnceAll (w.stepWorker c i wi reply) := by
  unfold World.stepWorker
  split
  · exact h
  · rename_i inst hinst
    have hi := h inst (List.getElem?_mem hinst)
    split
    · exact h
    · exact h
    · rename_i nl hwk
      exact h.update i (tasksOnce_takeTask hi hwk)
    · rename_i k b nl p hwi
      split
      · exact h.update i (hi.update hwi (.idle nl) _ _ (.inl rfl) fun t => by simp [Worker.task?])
      · rename_i e _
        exact h.update i (hi.update hwi (.idle _) _ _ (.inl rfl) fun t => by simp [Worker.task?]; omega)
      · exact h.update i (hi.update hwi (.busy k b _ _) _ _ (Prog.step_producer p reply _) fun t => by
          simp [Worker.task?])

theorem onceAll_produce {w : World} (h : OnceAll w) (i : Nat) (cb : Option Int) : OnceAll (w.produce i cb) := by
  unfold World.produce
  split
  · exact h
  · rename_i inst hinst
    have hi := h inst (List.getElem?_mem hinst)
    split_ifs
    · obtain ⟨first, hf⟩ := hi.producer
      refine h.update i ⟨⟨first, ProducerAux.inv_iterate hf cb⟩, fun t => ?_⟩
      have := hi.once t
      simp only [Instance.inFlight, List.filterMap_append, List.count_append] at this ⊢
      omega
    · exact h

theorem onceAll_close {w : World} (h : OnceAll w) (i : Nat) : OnceAll (w.close i) := by
  unfold World.close
  split
  · exact h
  · rename_i inst hinst
    have hi := h inst (List.getElem?_mem hinst)
    refine h.update i ⟨hi.producer, fun t => ?_⟩
    have := hi.once t
    simp only [Instance.inFlight] at this ⊢
    split_ifs <;> simpa [List.filterMap_append, List.filterMap_replicate, queued?] using this

theorem onceAll_step {w : World} (h : OnceAll w) : ∀ e, OnceAll (World.step c w e)
  | .start i q => by show OnceAll (w.start i q); unfold World.start; split <;> exact h
  | .call j reply => onceAll_stepCall h j reply
  | .work i wi reply => onceAll_stepWorker h i wi reply
  | .produce i cb => onceAll_produce h i cb
  | .close i => onceAll_close h i

theorem onceAll_run (configs : List Config) (evs : List Event) : OnceAll (World.run c configs evs) := by
  suffices ∀ w, OnceAll w → OnceAll (evs.foldl (World.step c) w) from
    this _ fun inst h => by obtain ⟨cfg, -, rfl⟩ := List.mem_map.1 h; exact tasksOnce_init cfg
  induction evs with
  | nil => exact fun _ h => h
  | cons e evs ih => exact fun w h => ih _ (onceAll_step h e)

/-- With each task once, an abandoned task is neither queued nor held, and was abandoned once. -/
theorem TasksOnce.dropped {inst : Instance} (h : TasksOnce inst) :
    (inst.dropped.map fun d => (d.1, d.2.1)).Nodup ∧ ∀ k b e, (k, b, e) ∈ inst.dropped →
      (TaskType.datum k, b) ∉ inst.taskQueue ∧ ∀ wk ∈ inst.workers, wk.task? ≠ some (k, b) := by
  obtain ⟨first, hf⟩ := h.producer
  have hnd : (inst.submitted.filterMap queued?).Nodup := by
    refine List.Nodup.filterMap (fun a a' t ha ha' => ?_) ?_
    · rcases a with ⟨_ | k, b⟩ <;> rcases a' with ⟨_ | k', b'⟩ <;>
        simp only [queued?, Option.mem_def, reduceCtorEq, Option.some.injEq] at ha ha'
      cases ha.trans ha'.symm
      rfl
    · cases first with
      | none => rw [hf.2]; exact List.nodup_nil
      | some b0 => obtain ⟨r, s, -, -, -, -, -, hl⟩ := hf; rw [hl]; exact ProducerAux.nodup_tasksThrough b0 s
  have hsub : ∀ t, (inst.submitted.filterMap queued?).count t ≤ 1 := count_le_one_of_nodup hnd
  have hle : ∀ t, inst.inFlight.count t ≤ 1 := fun t => (h.once t).trans (hsub t)
  refine ⟨(List.nodup_append.1 (nodup_of_count_le_one hle)).2.1, fun k b e he => ⟨fun hq => ?_, fun wk hwk ht => ?_⟩⟩
  all_goals
    have hd : 0 < (inst.dropped.map fun d => (d.1, d.2.1)).count (k, b) :=
      List.count_pos_iff.2 (List.mem_map.2 ⟨_, he, rfl⟩)
    have := hle (k, b)
    simp only [Instance.inFlight, List.count_append] at this
  · have : 0 < (inst.taskQueue.filterMap queued?).count (k, b) :=
      List.count_pos_iff.2 (List.mem_filterMap.2 ⟨_, hq, rfl⟩)
    omega
  · have : 0 < (inst.workers.filterMap Worker.task?).count (k, b) :=
      List.count_pos_iff.2 (List.mem_filterMap.2 ⟨wk, hwk, ht⟩)
    omega

end Once

/-! ## Every run, and a run that loses a task -/

/-- One instance with workers and no archive node: a consumer asks for the neurons of block 5, the producer (reading
current block 10) submits block 5, worker 0 takes the neurons task, misses the cache and the neuron-list cache, its
lite request fails, and it abandons the task. -/
def lostTaskRun : List Event :=
  [.start 0 (.listNeurons 5), .call 0 .ok, .produce 0 (some 10), .work 0 0 .ok, .work 0 0 .ok, .work 0 0 .ok,
    .work 0 0 .failed, .work 0 0 .ok]

/-- A chain with no neurons, timestamp zero, empty hashes and no `total_stake` at every block. -/
def emptyChain : Chain := ⟨fun _ => [], fun _ => ⟨0⟩, fun _ => "", fun _ => ⟨none⟩⟩

/-- In every run, every task the producer of an instance submitted is in the shared cache, still in the queue, held
by a worker, or among the tasks the instance's workers abandoned, with the error that ended it. A task is abandoned at
most once, and an abandoned task is never queued or held again: no worker retries it. -/
theorem submitted_task_accounted (c : Chain) (configs : List Config) (evs : List Event) :
    ∀ inst ∈ (World.run c configs evs).instances,
      (∀ k b, (TaskType.datum k, b) ∈ inst.submitted → Accounted (World.run c configs evs).cache inst k b) ∧
      (inst.dropped.map fun d => (d.1, d.2.1)).Nodup ∧
      ∀ k b e, (k, b, e) ∈ inst.dropped →
        (TaskType.datum k, b) ∉ inst.taskQueue ∧ ∀ wk ∈ inst.workers, wk.task? ≠ some (k, b) :=
  fun inst hinst => ⟨(keepsTasks_foldl evs _ (keepsTasks_init configs) inst hinst).submitted,
    (onceAll_run configs evs inst hinst).dropped⟩

/-- After `lostTaskRun` the neurons task of block 5 is accounted for, among the tasks the worker abandoned, and it is
neither queued nor held. -/
theorem neurons_task_accounted :
    ((World.run emptyChain [⟨false, false, true⟩] lostTaskRun).instances.head
      (List.ne_nil_of_length_pos (by decide))) ∈ (World.run emptyChain [⟨false, false, true⟩] lostTaskRun).instances ∧
    (TaskType.datum .neurons, (5 : Int)) ∈ ((World.run emptyChain [⟨false, false, true⟩] lostTaskRun).instances.head
      (List.ne_nil_of_length_pos (by decide))).submitted ∧
    Accounted (World.run emptyChain [⟨false, false, true⟩] lostTaskRun).cache
      ((World.run emptyChain [⟨false, false, true⟩] lostTaskRun).instances.head (List.ne_nil_of_length_pos (by decide)))
      .neurons 5 ∧
    (TaskType.datum .neurons, (5 : Int)) ∉ ((World.run emptyChain [⟨false, false, true⟩] lostTaskRun).instances.head
      (List.ne_nil_of_length_pos (by decide))).taskQueue ∧
    ∀ wk ∈ ((World.run emptyChain [⟨false, false, true⟩] lostTaskRun).instances.head
      (List.ne_nil_of_length_pos (by decide))).workers, wk.task? ≠ some (.neurons, 5) :=
  have h := submitted_task_accounted emptyChain [⟨false, false, true⟩] lostTaskRun _ (List.head_mem _)
  ⟨List.head_mem _, by decide, h.1 _ _ (by decide), h.2.2 .neurons 5 .failed (by decide)⟩

/-- After `lostTaskRun` the neurons task of block 5 was submitted and is nowhere: not in the
cache, not in the queue, held by no worker; the instance is open and the error was not
`ArchiveSubtensorNotConfigured`. -/
theorem neurons_task_lost :
    (World.run emptyChain [⟨false, false, true⟩] lostTaskRun).instances.length = 1 ∧
    ((World.run emptyChain [⟨false, false, true⟩] lostTaskRun).cache.get .neurons 5).isNone ∧
    ∀ inst ∈ (World.run emptyChain [⟨false, false, true⟩] lostTaskRun).instances,
      (TaskType.datum .neurons, (5 : Int)) ∈ inst.submitted ∧ inst.closing = false ∧
      (TaskType.datum .neurons, (5 : Int)) ∉ inst.taskQueue ∧ (∀ wk ∈ inst.workers, wk.task? = none) ∧
      inst.dropped = [(.neurons, 5, .failed)] :=
  by decide

end ComputeHorde
