import ComputeHorde.Precache.Sound

/-!
# Precaching is transparent

`WorldSound` is the invariant of every reachable world: the shared cache and every neuron-list cache hold only the
chain's answers, every worker runs a sound task, and every consumer call, in progress or returned, yields the chain's
answer or an error its configuration allows. It holds initially and each event keeps it, so it holds after every run.
`precaching_transparent`: in every run of any number of `PrecachingSuperTensor` instances sharing one cache, under any
interleaving and whatever each chain request answers, every call that returned gave the value the plain `SuperTensor`
gives for the same read, or an error: only `PrecachingSuperTensorCacheMiss` under `throw_on_cache_miss`, otherwise
only one the plain read can end with (`chainError`). Every cache entry is the chain's answer.
-/

namespace ComputeHorde

/-- A worker is sound when its neuron-list cache holds the chain's neurons and its task writes only chain answers. -/
def WorkerSound (c : Chain) : Worker → Prop
  | .idle nl => NeuronListFaithful c nl
  | .busy _ _ nl p => NeuronListFaithful c nl ∧ p.Sound c fun _ => True
  | .quit => True

/-- An instance is sound when its neuron-list cache and all its workers are. -/
structure InstanceSound (c : Chain) (inst : Instance) : Prop where
  neuronList : NeuronListFaithful c inst.neuronList
  workers : ∀ wk ∈ inst.workers, WorkerSound c wk

/-- The invariant of every reachable world. -/
structure WorldSound (c : Chain) (w : World) : Prop where
  cache : CacheFaithful c w.cache
  instances : ∀ inst ∈ w.instances, InstanceSound c inst
  calls : ∀ call ∈ w.calls, call.prog.Yields c (call.query.answer c) call.config.allowed
  returned : ∀ r ∈ w.returned, ReadOutcome (r.query.answer c) r.config.allowed r.result

section Invariant

variable {c : Chain}

theorem neuronListFaithful_empty : NeuronListFaithful c NeuronListCache.empty :=
  fun _ _ h => absurd h (List.not_mem_nil _)

namespace TransparencyAux

theorem result?_eq_some {α : Type} {p : Prog α} {r : Except ReadError α} (h : p.result? = some r) : p = .done r := by
  cases p <;> first | cases h; rfl | cases h

theorem done_post {α : Type} {P : Except ReadError α → Prop} {r : Except ReadError α}
    (h : (Prog.done r).Sound c P) : P r := by
  cases h
  assumption

end TransparencyAux

open TransparencyAux

theorem instanceSound_init (cfg : Config) : InstanceSound c (Instance.init cfg) := by
  refine ⟨neuronListFaithful_empty, fun wk hwk => ?_⟩
  simp only [Instance.init] at hwk
  split_ifs at hwk
  · rw [List.eq_of_mem_replicate hwk]
    exact neuronListFaithful_empty
  · cases hwk

theorem worldSound_init (configs : List Config) : WorldSound c (World.init configs) where
  cache _ _ _ h := by cases h
  instances inst h := by
    obtain ⟨cfg, -, rfl⟩ := List.mem_map.1 h
    exact instanceSound_init cfg
  calls _ h := by cases h
  returned _ h := by cases h

/-- Replacing an instance by one with a faithful neuron-list cache and sound workers keeps the world sound. -/
theorem WorldSound.updateInstance {w : World} (h : WorldSound c w) (i : Nat) {inst : Instance}
    (hn : NeuronListFaithful c inst.neuronList) (hw : ∀ wk ∈ inst.workers, WorkerSound c wk) :
    WorldSound c (w.updateInstance i inst) :=
  { h with instances := forall_mem_set h.instances i _ ⟨hn, hw⟩ }

theorem instanceSound_takeTask {inst : Instance} (h : InstanceSound c inst) (wi : Nat) {nl : NeuronListCache}
    (hn : NeuronListFaithful c nl) : InstanceSound c (World.takeTask inst wi nl) := by
  unfold World.takeTask
  split_ifs
  · exact ⟨h.neuronList, forall_mem_set h.workers wi .quit trivial⟩
  · split
    · exact h
    · exact ⟨h.neuronList, forall_mem_set h.workers wi .quit trivial⟩
    · exact ⟨h.neuronList, forall_mem_set h.workers wi (.busy _ _ nl _) ⟨hn, workerTask_sound _ _ _⟩⟩

theorem worldSound_start {w : World} (h : WorldSound c w) (i : Nat) (q : Query) : WorldSound c (w.start i q) := by
  unfold World.start
  split
  · exact h
  · refine { h with calls := fun call hcall => ?_ }
    rcases List.mem_append.1 hcall with hcall | hcall
    · exact h.calls call hcall
    · rw [List.mem_singleton.1 hcall]
      exact Query.precaching_yields _ q

theorem worldSound_stepCall {w : World} (h : WorldSound c w) (j : Nat) (reply : Reply) :
    WorldSound c (w.stepCall c j reply) := by
  unfold World.stepCall
  split
  · exact h
  · rename_i call hcall
    have hy := h.calls call (List.getElem?_mem hcall)
    split
    · rename_i r hr
      rw [result?_eq_some hr] at hy
      refine { h with calls := fun x hx => h.calls x (List.mem_of_mem_eraseIdx hx), returned := fun x hx => ?_ }
      rcases List.mem_append.1 hx with hx | hx
      · exact h.returned x hx
      · rw [List.mem_singleton.1 hx]
        exact done_post hy
    · split
      · exact h
      · rename_i inst hinst
        have hi := h.instances inst (List.getElem?_mem hinst)
        obtain ⟨hp, hc, hn⟩ := hy.step reply ⟨w.cache, inst.neuronList, inst.producer⟩ h.cache hi.neuronList
        exact ⟨hc, forall_mem_set h.instances _ _ ⟨hn, hi.workers⟩,
          forall_mem_set h.calls j { call with prog := _ } hp, h.returned⟩

theorem worldSound_stepWorker {w : World} (h : WorldSound c w) (i wi : Nat) (reply : Reply) :
    WorldSound c (w.stepWorker c i wi reply) := by
  unfold World.stepWorker
  split
  · exact h
  · rename_i inst hinst
    have hi := h.instances inst (List.getElem?_mem hinst)
    split
    · exact h
    · exact h
    · rename_i nl hwk
      have := instanceSound_takeTask hi wi (hi.workers _ (List.getElem?_mem hwk))
      exact h.updateInstance i this.neuronList this.workers
    · rename_i k b nl p hwk
      obtain ⟨hn, hp⟩ := hi.workers _ (List.getElem?_mem hwk)
      split
      · exact h.updateInstance i hi.neuronList (forall_mem_set hi.workers wi (.idle nl) hn)
      · exact h.updateInstance i hi.neuronList (forall_mem_set hi.workers wi (.idle _) neuronListFaithful_empty)
      · obtain ⟨hp', hc, hn'⟩ := hp.step reply ⟨w.cache, nl, inst.producer⟩ h.cache hn
        refine ⟨hc, (h.updateInstance i ?_ ?_).instances, h.calls, h.returned⟩
        · exact hi.neuronList
        · exact forall_mem_set hi.workers wi (.busy k b _ _) ⟨hn', hp'⟩

theorem worldSound_produce {w : World} (h : WorldSound c w) (i : Nat) (cb : Option Int) :
    WorldSound c (w.produce i cb) := by
  unfold World.produce
  split
  · exact h
  · rename_i inst hinst
    have hi := h.instances inst (List.getElem?_mem hinst)
    split_ifs
    · exact h.updateInstance i hi.neuronList hi.workers
    · exact h

theorem worldSound_close {w : World} (h : WorldSound c w) (i : Nat) : WorldSound c (w.close i) := by
  unfold World.close
  split
  · exact h
  · rename_i inst hinst
    have hi := h.instances inst (List.getElem?_mem hinst)
    exact h.updateInstance i hi.neuronList hi.workers

/-- Every event keeps the world sound. -/
theorem worldSound_step {w : World} (h : WorldSound c w) : ∀ e, WorldSound c (World.step c w e)
  | .start i q => worldSound_start h i q
  | .call j reply => worldSound_stepCall h j reply
  | .work i wi reply => worldSound_stepWorker h i wi reply
  | .produce i cb => worldSound_produce h i cb
  | .close i => worldSound_close h i

/-- Every run keeps the world sound. -/
theorem worldSound_foldl (evs : List Event) : ∀ w, WorldSound c w → WorldSound c (evs.foldl (World.step c) w) := by
  induction evs with
  | nil => exact fun _ h => h
  | cons e evs ih => exact fun w h => ih _ (worldSound_step h e)

/-- Every reachable world is sound. -/
theorem worldSound_run (c : Chain) (configs : List Config) (evs : List Event) :
    WorldSound c (World.run c configs evs) :=
  worldSound_foldl evs _ (worldSound_init configs)

/-- Precaching is transparent: in every run, each consumer call that returned gave the chain's answer, which is the
only value the plain `SuperTensor` read gives, or an error: under `throw_on_cache_miss` only
`PrecachingSuperTensorCacheMiss`, and otherwise only one of the errors the plain read can end with. Every entry of the
shared cache is the chain's answer for its kind and block. -/
theorem precaching_transparent (c : Chain) (configs : List Config) (evs : List Event) :
    CacheFaithful c (World.run c configs evs).cache ∧
    ∀ r ∈ (World.run c configs evs).returned,
      ReadOutcome (r.query.answer c) r.config.allowed r.result ∧
      (r.query.plain r.config.hasArchive).Yields c (r.query.answer c) (chainError r.config.hasArchive ·) :=
  ⟨(worldSound_run c configs evs).cache,
    fun r hr => ⟨(worldSound_run c configs evs).returned r hr, Query.plain_yields _ _⟩⟩

end Invariant

end ComputeHorde
