import ComputeHorde.Precache.World

/-!
# Programs that only ever see and write the chain's answers

`Prog.Sound c post p`: however its requests are answered and whatever its cache lookups find among "absent" and the
chain's answer, `p` writes only the chain's answers to the shared cache and its neuron-list cache, and ends with a
result that satisfies `post`; `Yields c x allowed p` is the case of the value `x` or an error `allowed` admits. One
lemma per combinator and one per read give: a plain `SuperTensor` read yields the chain's answer or an error of its
chain reads (`chainError`, `Query.plain_yields`); a consumer getter of a `PrecachingSuperTensor` yields the chain's
answer, or only `PrecachingSuperTensorCacheMiss` with `throw_on_cache_miss`, and otherwise only an error a plain read
can end with (`Query.precaching_yields`); every worker task is sound (`workerTask_sound`). `Sound.step`: one effect of
a sound program keeps it sound and the caches holding the chain's answers only.
-/

namespace ComputeHorde

/-! ## Sound programs -/

/-- Every value the cache holds is the chain's answer for its kind and block. -/
def CacheFaithful (c : Chain) (cache : InMemoryCache) : Prop :=
  ∀ k b v, cache.get k b = some v → v = c.answer k b

/-- Every neuron list a neuron-list cache holds is the chain's for its block. -/
def NeuronListFaithful (c : Chain) (nl : NeuronListCache) : Prop :=
  ∀ b v, (b, v) ∈ nl.entries → v = c.neurons b

/-- See the module docstring. -/
inductive Prog.Sound (c : Chain) {α : Type} (post : Except ReadError α → Prop) : Prog α → Prop where
  | done {r : Except ReadError α} : post r → Prog.Sound c post (.done r)
  | request {src : Source} {k : Kind} {b : Int} {cont : Response k.Val → Prog α} :
      (∀ reply : Reply, Prog.Sound c post (cont (reply.response (c.answer k b)))) →
      Prog.Sound c post (.request src k b cont)
  | cacheGet {k : Kind} {b : Int} {cont : Option k.Val → Prog α} :
      Prog.Sound c post (cont none) → Prog.Sound c post (cont (some (c.answer k b))) →
      Prog.Sound c post (.cacheGet k b cont)
  | cachePut {k : Kind} {b : Int} {cont : Prog α} :
      Prog.Sound c post cont → Prog.Sound c post (.cachePut k b (c.answer k b) cont)
  | neuronListGet {b : Int} {cont : Option (List Neuron) → Prog α} :
      Prog.Sound c post (cont none) → Prog.Sound c post (cont (some (c.neurons b))) →
      Prog.Sound c post (.neuronListGet b cont)
  | neuronListAppend {b : Int} {cont : Prog α} :
      Prog.Sound c post cont → Prog.Sound c post (.neuronListAppend b (c.neurons b) cont)
  | setStartingBlock {b : Int} {cont : Prog α} :
      Prog.Sound c post cont → Prog.Sound c post (.setStartingBlock b cont)

/-- The results a read that should give `x` may end with: `x` itself, or an error that `allowed` admits. -/
def ReadOutcome {α : Type} (x : α) (allowed : ReadError → Prop) : Except ReadError α → Prop
  | .ok v => v = x
  | .error e => allowed e

/-- A sound program that ends with the value `x` or with an error `allowed` admits. -/
def Prog.Yields {α : Type} (c : Chain) (x : α) (allowed : ReadError → Prop) (p : Prog α) : Prop :=
  p.Sound c (ReadOutcome x allowed)

/-- The errors a read of a plain `SuperTensor` can end with, all from its chain reads: `SuperTensorTimeout`, any other
exception of a source, and `UnknownBlock` from the archive node when one is configured, else
`ArchiveSubtensorNotConfigured`. Never `PrecachingSuperTensorCacheMiss`. -/
def chainError (hasArchive : Bool) : ReadError → Bool
  | .superTensorTimeout | .failed => true
  | .unknownBlock => hasArchive
  | .archiveSubtensorNotConfigured => !hasArchive
  | .cacheMiss => false

/-- The errors a consumer call on an instance with this configuration may end with: only
`PrecachingSuperTensorCacheMiss` under `throw_on_cache_miss`, and otherwise those a plain read can end with. -/
def Config.allowed (cfg : Config) (e : ReadError) : Prop :=
  if cfg.throwOnCacheMiss then e = .cacheMiss else chainError cfg.hasArchive e = true

/-! ## One lemma per combinator -/

section Combinators

variable {c : Chain} {α β : Type}

theorem Prog.Sound.mono {P Q : Except ReadError α → Prop} (hPQ : ∀ r, P r → Q r) {p : Prog α} (h : p.Sound c P) :
    p.Sound c Q := by
  induction h with
  | done hr => exact .done (hPQ _ hr)
  | request _ ih => exact .request ih
  | cacheGet _ _ ih1 ih2 => exact .cacheGet ih1 ih2
  | cachePut _ ih => exact .cachePut ih
  | neuronListGet _ _ ih1 ih2 => exact .neuronListGet ih1 ih2
  | neuronListAppend _ ih => exact .neuronListAppend ih
  | setStartingBlock _ ih => exact .setStartingBlock ih

theorem Prog.Sound.bindE {P : Except ReadError α → Prop} {Q : Except ReadError β → Prop} {p : Prog α}
    {f : Except ReadError α → Prog β} (h : p.Sound c P) (hf : ∀ r, P r → (f r).Sound c Q) : (p.bindE f).Sound c Q := by
  induction h with
  | done hr => exact hf _ hr
  | request _ ih => exact .request ih
  | cacheGet _ _ ih1 ih2 => exact .cacheGet ih1 ih2
  | cachePut _ ih => exact .cachePut ih
  | neuronListGet _ _ ih1 ih2 => exact .neuronListGet ih1 ih2
  | neuronListAppend _ ih => exact .neuronListAppend ih
  | setStartingBlock _ ih => exact .setStartingBlock ih

/-- A program that yields `x`, followed by one that yields `y` from `x`, yields `y`; errors pass through. -/
theorem Prog.Yields.bind {x : α} {y : β} {E : ReadError → Prop} {p : Prog α} {f : α → Prog β} (h : p.Yields c x E)
    (hf : (f x).Yields c y E) : (p.bind f).Yields c y E := by
  refine Prog.Sound.bindE h fun r hr => ?_
  rcases r with e | v
  · exact .done hr
  · obtain rfl : v = x := hr
    exact hf

theorem Prog.Yields.pure {x : α} {E : ReadError → Prop} : (Pure.pure x : Prog α).Yields c x E := .done rfl

theorem Prog.Yields.mono {x : α} {E E' : ReadError → Prop} (hE : ∀ e, E e → E' e) {p : Prog α} (h : p.Yields c x E) :
    p.Yields c x E' :=
  Prog.Sound.mono (fun r hr => match r, hr with
    | .ok _, hr => hr
    | .error e, hr => hE e hr) h

/-- `RETRY_ON_TIMEOUT` keeps whatever a program's results satisfy: it only runs the program again. -/
theorem Prog.Sound.retryUpTo {P : Except ReadError α → Prop} {p : Prog α} (h : p.Sound c P) (n : Nat) :
    (retryUpTo p n).Sound c P := by
  induction n with
  | zero => exact h
  | succ n ih =>
    refine h.bindE fun r hr => ?_
    split
    · exact ih
    · exact .done hr

theorem Prog.Sound.retryOnTimeout {P : Except ReadError α → Prop} {p : Prog α} (h : p.Sound c P) :
    (retryOnTimeout p).Sound c P :=
  h.retryUpTo _

/-! ## Chain reads and the reads of `SuperTensor` -/

/-- A request through `make_sync` yields the chain's answer, or a timeout, `UnknownBlock` or another error of the
source, on either source. -/
theorem makeSync_yields (src : Source) (k : Kind) (b : Int) :
    (makeSync src k b).Yields c (c.answer k b) fun e => e = .superTensorTimeout ∨ e = .unknownBlock ∨ e = .failed :=
  .request fun reply => by cases reply <;> exact .done (by simp [Reply.response, ReadOutcome])

/-- `archive_fallback` turns the lite node's `UnknownBlock` into a read of the archive node, or into
`ArchiveSubtensorNotConfigured` when there is none. -/
theorem chainRead_yields (hasArchive : Bool) (k : Kind) (b : Int) :
    (chainRead hasArchive k b).Yields c (c.answer k b) (chainError hasArchive ·) := by
  refine (makeSync_yields .lite k b).bindE fun r hr => ?_
  split
  · split
    · rename_i h
      exact (makeSync_yields .archive k b).mono fun e he => by rcases he with rfl | rfl | rfl <;> simp [chainError, h]
    · rename_i h
      exact .done (by simp [ReadOutcome, chainError, h])
  · rename_i hne
    refine .done ?_
    rcases r with e | v
    · rcases hr with rfl | rfl | rfl <;> first | rfl | exact absurd rfl hne
    · exact hr

/-- `SuperTensor._list_neurons` yields the chain's neurons: a hit of the neuron-list cache is one of them. -/
theorem listNeuronsImpl_yields (hasArchive : Bool) (b : Int) :
    (SuperTensor.listNeuronsImpl hasArchive b).Yields c (c.neurons b) (chainError hasArchive ·) := by
  have hfetch : (SuperTensor.listNeuronsImpl.fetch hasArchive b).Yields c (c.neurons b) (chainError hasArchive ·) :=
    (chainRead_yields hasArchive .neurons b).bind (.neuronListAppend (.done rfl))
  refine .neuronListGet hfetch ?_
  dsimp only
  split_ifs
  · exact .done rfl
  · exact hfetch

/-- Every read of a `Methods` table yields the chain's answer, with errors that `E` admits. -/
structure MethodsYield (c : Chain) (m : Methods) (E : ReadError → Prop) : Prop where
  neurons : ∀ b, (m.listNeuronsImpl b).Yields c (c.neurons b) E
  blockHash : ∀ b, (m.getBlockHash b).Yields c (c.blockHash b) E
  subnetState : ∀ b, (m.getSubnetState b).Yields c (c.subnetState b) E

theorem plainMethods_yield (hasArchive : Bool) : MethodsYield c (SuperTensor.methods hasArchive) (chainError hasArchive ·) where
  neurons b := listNeuronsImpl_yields hasArchive b
  blockHash b := (chainRead_yields hasArchive .blockHash b).retryOnTimeout
  subnetState b := (chainRead_yields hasArchive .subnetState b).retryOnTimeout

theorem listNeurons_yields {self : Methods} {E : ReadError → Prop} (h : MethodsYield c self E) (b : Int) :
    (SuperTensor.listNeurons self b).Yields c (c.neurons b) E :=
  (h.neurons b).retryOnTimeout

theorem listValidators_yields {self : Methods} {E : ReadError → Prop} (h : MethodsYield c self E) (b : Int) :
    (SuperTensor.listValidators self b).Yields c (c.answer .validators b) E :=
  (listNeurons_yields h b).bind ((h.subnetState b).bind .pure)

theorem getMetagraph_yields {self : Methods} {E : ReadError → Prop} (h : MethodsYield c self E) (b : Int) :
    (SuperTensor.getMetagraph self b).Yields c (c.metagraph b) E :=
  Prog.Sound.retryOnTimeout <|
    Prog.Yields.bind (h.blockHash b) ((listNeurons_yields h b).bind ((h.subnetState b).bind .pure))

/-! ## The reads of `PrecachingSuperTensor` -/

/-- A consumer getter's shape: a hit is the chain's answer; a miss raises `PrecachingSuperTensorCacheMiss` under
`throw_on_cache_miss` and otherwise runs the miss path. -/
theorem cacheFirst_yields {throw : Bool} {k : Kind} {b : Int} {miss : Prog k.Val} {E : ReadError → Prop}
    (hE : throw = true → E .cacheMiss) (hmiss : throw = false → miss.Yields c (c.answer k b) E) :
    (PrecachingSuperTensor.cacheFirst throw k b miss).Yields c (c.answer k b) E := by
  refine .setStartingBlock (.cacheGet ?_ (.done rfl))
  cases throw
  · exact hmiss rfl
  · exact .done (hE rfl)

/-- A miss path that stores what it read stores the chain's answer. -/
theorem fetchAndPut_yields {k : Kind} {b : Int} {fetch : Prog k.Val} {E : ReadError → Prop}
    (h : fetch.Yields c (c.answer k b) E) : (PrecachingSuperTensor.fetchAndPut k b fetch).Yields c (c.answer k b) E :=
  h.bind (.cachePut (.done rfl))

theorem Config.allowed_cacheMiss {cfg : Config} (h : cfg.throwOnCacheMiss = true) : cfg.allowed .cacheMiss := by
  simp [Config.allowed, h]

/-- Without `throw_on_cache_miss` the errors of a plain read are allowed. -/
theorem Config.allowed_of_chainError {cfg : Config} (h : cfg.throwOnCacheMiss = false) (e : ReadError)
    (he : chainError cfg.hasArchive e = true) : cfg.allowed e := by
  simp [Config.allowed, h, he]

theorem precachingMethods_yield (cfg : Config) :
    MethodsYield c (PrecachingSuperTensor.methods cfg) cfg.allowed where
  neurons b := cacheFirst_yields (k := .neurons) Config.allowed_cacheMiss fun h =>
    fetchAndPut_yields ((listNeuronsImpl_yields cfg.hasArchive b).mono (Config.allowed_of_chainError h))
  blockHash b := Prog.Sound.retryOnTimeout <| cacheFirst_yields (k := .blockHash) Config.allowed_cacheMiss fun h =>
    fetchAndPut_yields (((plainMethods_yield cfg.hasArchive).blockHash b).mono (Config.allowed_of_chainError h))
  subnetState b := Prog.Sound.retryOnTimeout <| cacheFirst_yields (k := .subnetState) Config.allowed_cacheMiss fun h =>
    fetchAndPut_yields ((chainRead_yields cfg.hasArchive .subnetState b).mono (Config.allowed_of_chainError h))

/-- Every consumer getter of a `PrecachingSuperTensor` yields the chain's answer, with only
`PrecachingSuperTensorCacheMiss` as an error under `throw_on_cache_miss`, and otherwise only an error a plain read can
end with. -/
theorem Query.precaching_yields (cfg : Config) (q : Query) : (q.precaching cfg).Yields c (q.answer c) cfg.allowed := by
  cases q with
  | listNeurons b => exact listNeurons_yields (precachingMethods_yield cfg) b
  | getBlockTimestamp b =>
    exact Prog.Sound.retryOnTimeout <| cacheFirst_yields (k := .blockTimestamp) Config.allowed_cacheMiss fun h =>
      (chainRead_yields cfg.hasArchive .blockTimestamp b).mono (Config.allowed_of_chainError h)
  | getBlockHash b => exact (precachingMethods_yield cfg).blockHash b
  | getSubnetState b => exact (precachingMethods_yield cfg).subnetState b
  | listValidators b =>
    exact cacheFirst_yields Config.allowed_cacheMiss fun _ =>
      fetchAndPut_yields (listValidators_yields (precachingMethods_yield cfg) b)
  | getMetagraph b => exact getMetagraph_yields (precachingMethods_yield cfg) b

/-- Every read of a plain `SuperTensor` yields the chain's answer or an error of its chain reads. -/
theorem Query.plain_yields (hasArchive : Bool) (q : Query) :
    (q.plain hasArchive).Yields c (q.answer c) (chainError hasArchive ·) := by
  cases q with
  | listNeurons b => exact listNeurons_yields (plainMethods_yield hasArchive) b
  | getBlockTimestamp b => exact (chainRead_yields hasArchive .blockTimestamp b).retryOnTimeout
  | getBlockHash b => exact (plainMethods_yield hasArchive).blockHash b
  | getSubnetState b => exact (plainMethods_yield hasArchive).subnetState b
  | listValidators b => exact listValidators_yields (plainMethods_yield hasArchive) b
  | getMetagraph b => exact getMetagraph_yields (plainMethods_yield hasArchive) b

/-! ## Worker tasks, and one effect at a time -/

/-- A worker branch whose read yields the chain's answer stores only that answer. -/
theorem workerFill_sound {k : Kind} {b : Int} {read : Prog k.Val} {E : ReadError → Prop}
    (h : read.Yields c (c.answer k b) E) : (PrecachingSuperTensor.workerFill k b read).Sound c fun _ => True :=
  .cacheGet (Prog.Sound.mono (fun _ _ => trivial) (h.bind (y := ()) (.cachePut (.done rfl)))) (.done trivial)

/-- Every worker task stores only the chain's answers. -/
theorem workerTask_sound (hasArchive : Bool) (k : Kind) (b : Int) :
    (PrecachingSuperTensor.workerTask hasArchive k b).Sound c fun _ => True := by
  cases k with
  | neurons => exact workerFill_sound (listNeurons_yields (plainMethods_yield hasArchive) b)
  | blockTimestamp => exact workerFill_sound (chainRead_yields hasArchive .blockTimestamp b).retryOnTimeout
  | blockHash => exact workerFill_sound ((plainMethods_yield hasArchive).blockHash b)
  | subnetState => exact workerFill_sound ((plainMethods_yield hasArchive).subnetState b)
  | validators => exact workerFill_sound (listValidators_yields (plainMethods_yield hasArchive) b)

/-- Writing the chain's answer keeps the cache faithful. -/
theorem CacheFaithful.put {cache : InMemoryCache} (h : CacheFaithful c cache) (k : Kind) (b : Int) :
    CacheFaithful c (cache.put k b (c.answer k b)) := by
  intro k' b' v hv
  by_cases hkb : k' = k ∧ b' = b
  · obtain ⟨rfl, rfl⟩ := hkb
    rw [InMemoryCache.get_put_self] at hv
    exact (Option.some.inj hv).symm
  · rw [InMemoryCache.get_put_of_ne _ _ (by tauto)] at hv
    exact h k' b' v hv

/-- One effect of a sound program keeps it sound and keeps both caches it writes faithful. -/
theorem Prog.Sound.step {P : Except ReadError α → Prop} {p : Prog α} (h : p.Sound c P) (reply : Reply) (ctx : Ctx)
    (hc : CacheFaithful c ctx.cache) (hn : NeuronListFaithful c ctx.neuronList) :
    (p.step c reply ctx).1.Sound c P ∧ CacheFaithful c (p.step c reply ctx).2.cache ∧
      NeuronListFaithful c (p.step c reply ctx).2.neuronList := by
  cases h with
  | done hr => exact ⟨.done hr, hc, hn⟩
  | request h => exact ⟨h reply, hc, hn⟩
  | @cacheGet k b cont h1 h2 =>
    refine ⟨?_, hc, hn⟩
    show (cont (ctx.cache.get k b)).Sound c P
    cases hg : ctx.cache.get k b with
    | none => exact h1
    | some v => rw [hc k b v hg]; exact h2
  | cachePut h => exact ⟨h, hc.put _ _, hn⟩
  | @neuronListGet b cont h1 h2 =>
    refine ⟨?_, hc, hn⟩
    show (cont (ctx.neuronList.lookup b)).Sound c P
    cases hg : ctx.neuronList.lookup b with
    | none => exact h1
    | some v => rw [hn b v (NeuronListCache.mem_of_lookup hg)]; exact h2
  | @neuronListAppend b cont h =>
    refine ⟨h, hc, fun b' v hv => ?_⟩
    rcases NeuronListCache.mem_append hv with hv | ⟨rfl, rfl⟩
    · exact hn b' v hv
    · rfl
  | setStartingBlock h => exact ⟨h, hc, hn⟩

end Combinators

end ComputeHorde
