import ComputeHorde.Precache.World

/-!
# How many chain requests a read sends

`Prog.runAlone` runs one read by itself, the `i`-th request answered by the `i`-th reply, and logs the requests.
`Prog.AtMost key n p`: whatever the replies and the caches, `p` sends at most `n` requests for `key` (a source, a datum
kind and a block). One lemma per combinator and one per read give (`plain_requests_le`, `precaching_requests_le`): a
plain `SuperTensor` read sends at most 3 requests for one key, but `get_metagraph` up to 9, since `RETRY_ON_TIMEOUT`
around `_build_metagraph_data` repeats reads under their own `RETRY_ON_TIMEOUT`; on a `PrecachingSuperTensor`,
`get_block_hash` sends up to 9 (its miss path is the retried public `get_block_hash`) and `get_metagraph` up to 27.
`nested_retries_timeouts`: when every request times out, those three reads reach 9, 9 and 27.
-/

namespace ComputeHorde

/-! ## Running one read by itself -/

/-- A read run by itself: the requests it sent, in order, each with the reply it got; its result; the caches it
left. -/
structure Run (α : Type) where
  requests : List (Source × Kind × Int × Reply)
  result : Except ReadError α
  ctx : Ctx

/-- What each logged request asked for. -/
def Run.keys {α : Type} (r : Run α) : List (Source × Kind × Int) := r.requests.map fun q => (q.1, q.2.1, q.2.2.1)

/-- Fresh caches: an empty shared cache, an empty neuron-list cache, the producer as `__init__` leaves it. -/
def Ctx.init : Ctx := ⟨InMemoryCache.empty, NeuronListCache.empty, Producer.init⟩

namespace Prog

variable {α β : Type}

/-- Run `p` by itself against chain `c`, effect by effect as `Prog.step` does, the `i`-th request answered by the
`i`-th reply of `replies` (by `ok` once they run out). -/
def runAlone (c : Chain) : Prog α → List Reply → Ctx → Run α
  | done r, _, ctx => ⟨[], r, ctx⟩
  | request src k b cont, replies, ctx =>
    let r := (cont ((replies.headD .ok).response (c.answer k b))).runAlone c replies.tail ctx
    { r with requests := (src, k, b, replies.headD .ok) :: r.requests }
  | cacheGet k b cont, replies, ctx => (cont (ctx.cache.get k b)).runAlone c replies ctx
  | cachePut k b v cont, replies, ctx => cont.runAlone c replies { ctx with cache := ctx.cache.put k b v }
  | neuronListGet b cont, replies, ctx => (cont (ctx.neuronList.lookup b)).runAlone c replies ctx
  | neuronListAppend b v cont, replies, ctx => cont.runAlone c replies { ctx with neuronList := ctx.neuronList.append b v }
  | setStartingBlock b cont, replies, ctx =>
    cont.runAlone c replies { ctx with producer := ctx.producer.setStartingBlock b }

/-- Every effect but a request is the step `Prog.step` takes, whatever reply that step is given. -/
theorem runAlone_of_step (c : Chain) (p : Prog α) (hp : p.result? = none) (hr : ∀ src k b cont, p ≠ request src k b cont)
    (reply : Reply) (replies : List Reply) (ctx : Ctx) :
    p.runAlone c replies ctx = (p.step c reply ctx).1.runAlone c replies (p.step c reply ctx).2 := by
  cases p with
  | done => cases hp
  | request src k b cont => exact absurd rfl (hr src k b cont)
  | _ => rfl

/-- A request is the step `Prog.step` takes with the next reply, and is logged with it. -/
theorem runAlone_request (c : Chain) (src : Source) (k : Kind) (b : Int) (cont : Response k.Val → Prog α) (reply : Reply)
    (replies : List Reply) (ctx : Ctx) :
    (request src k b cont).runAlone c (reply :: replies) ctx =
      let r := ((request src k b cont).step c reply ctx).1.runAlone c replies ctx
      { r with requests := (src, k, b, reply) :: r.requests } := rfl

/-! ## At most `n` requests for a key -/

/-- However its requests are answered and whatever its caches hold, `p` sends at most `n` requests for `key`. -/
inductive AtMost (key : Source × Kind × Int) : Nat → Prog α → Prop where
  | done {n : Nat} {r : Except ReadError α} : AtMost key n (done r)
  | requestKey {n : Nat} {src : Source} {k : Kind} {b : Int} {cont : Response k.Val → Prog α} :
      (src, k, b) = key → (∀ x, AtMost key n (cont x)) → AtMost key (n + 1) (request src k b cont)
  | requestOther {n : Nat} {src : Source} {k : Kind} {b : Int} {cont : Response k.Val → Prog α} :
      (src, k, b) ≠ key → (∀ x, AtMost key n (cont x)) → AtMost key n (request src k b cont)
  | cacheGet {n : Nat} {k : Kind} {b : Int} {cont : Option k.Val → Prog α} :
      (∀ x, AtMost key n (cont x)) → AtMost key n (cacheGet k b cont)
  | cachePut {n : Nat} {k : Kind} {b : Int} {v : k.Val} {cont : Prog α} :
      AtMost key n cont → AtMost key n (cachePut k b v cont)
  | neuronListGet {n : Nat} {b : Int} {cont : Option (List Neuron) → Prog α} :
      (∀ x, AtMost key n (cont x)) → AtMost key n (neuronListGet b cont)
  | neuronListAppend {n : Nat} {b : Int} {v : List Neuron} {cont : Prog α} :
      AtMost key n cont → AtMost key n (neuronListAppend b v cont)
  | setStartingBlock {n : Nat} {b : Int} {cont : Prog α} :
      AtMost key n cont → AtMost key n (setStartingBlock b cont)

end Prog

/-! ## The bound of each read -/

/-- `1` for the request `key'` itself, `0` for any other. -/
def single (key' key : Source × Kind × Int) : Nat := if key' = key then 1 else 0

/-- What one chain read of kind `k` at block `b` may send for `key`: one request to the lite node and one to the
archive node. -/
def readBound (k : Kind) (b : Int) (key : Source × Kind × Int) : Nat :=
  single (.lite, k, b) key + single (.archive, k, b) key

/-- The most requests for one key a read on a plain `SuperTensor` sends. -/
def Query.plainBound : Query → Nat
  | .getMetagraph _ => 9
  | _ => 3

/-- The most requests for one key a read on a `PrecachingSuperTensor` sends. -/
def Query.precachingBound : Query → Nat
  | .getBlockHash _ => 9
  | .getMetagraph _ => 27
  | _ => 3

/-! ## One lemma per combinator -/

section Combinators

variable {α β : Type} {key : Source × Kind × Int}

theorem Prog.AtMost.mono {n m : Nat} {p : Prog α} (h : p.AtMost key n) (hnm : n ≤ m) : p.AtMost key m := by
  induction h generalizing m with
  | done => exact .done
  | requestKey he _ ih =>
    obtain ⟨m, rfl⟩ : ∃ m', m = m' + 1 := ⟨m - 1, by omega⟩
    exact .requestKey he fun x => ih x (by omega)
  | requestOther he _ ih => exact .requestOther he fun x => ih x hnm
  | cacheGet _ ih => exact .cacheGet fun x => ih x hnm
  | cachePut _ ih => exact .cachePut (ih hnm)
  | neuronListGet _ ih => exact .neuronListGet fun x => ih x hnm
  | neuronListAppend _ ih => exact .neuronListAppend (ih hnm)
  | setStartingBlock _ ih => exact .setStartingBlock (ih hnm)

/-- The requests of `p.bindE g` are those of `p`, then those of `g` of its result. -/
theorem Prog.AtMost.bindE {n m : Nat} {p : Prog α} {g : Except ReadError α → Prog β} (h : p.AtMost key n)
    (hg : ∀ r, (g r).AtMost key m) : (p.bindE g).AtMost key (n + m) := by
  induction h with
  | done => exact (hg _).mono (Nat.le_add_left _ _)
  | requestKey he _ ih =>
    rw [Nat.add_right_comm]
    exact .requestKey he ih
  | requestOther he _ ih => exact .requestOther he ih
  | cacheGet _ ih => exact .cacheGet ih
  | cachePut _ ih => exact .cachePut ih
  | neuronListGet _ ih => exact .neuronListGet ih
  | neuronListAppend _ ih => exact .neuronListAppend ih
  | setStartingBlock _ ih => exact .setStartingBlock ih

theorem Prog.AtMost.bind {n m : Nat} {p : Prog α} {f : α → Prog β} (h : p.AtMost key n)
    (hf : ∀ a, (f a).AtMost key m) : (p.bind f).AtMost key (n + m) :=
  h.bindE fun
    | .ok a => hf a
    | .error _ => .done

/-- Each attempt of `RETRY_ON_TIMEOUT` sends the requests of one run of the read again. -/
theorem Prog.AtMost.retryUpTo {n : Nat} {p : Prog α} (h : p.AtMost key n) (j : Nat) :
    (ComputeHorde.retryUpTo p j).AtMost key ((j + 1) * n) := by
  induction j with
  | zero => simpa using h
  | succ j ih =>
    rw [Nat.add_one_mul, Nat.add_comm]
    refine h.bindE fun r => ?_
    split
    · exact ih
    · exact .done

theorem Prog.AtMost.retryOnTimeout {n : Nat} {p : Prog α} (h : p.AtMost key n) :
    (ComputeHorde.retryOnTimeout p).AtMost key (3 * n) :=
  h.retryUpTo _

theorem makeSync_atMost (src : Source) (k : Kind) (b : Int) : (makeSync src k b).AtMost key (single (src, k, b) key) := by
  unfold single
  split_ifs with he
  · exact .requestKey he fun x => by cases x <;> exact .done
  · exact .requestOther he fun x => by cases x <;> exact .done

/-- `archive_fallback` sends the read once to the lite node and, after `UnknownBlock`, once to the archive node. -/
theorem chainRead_atMost (hasArchive : Bool) (k : Kind) (b : Int) :
    (chainRead hasArchive k b).AtMost key (readBound k b key) := by
  refine (makeSync_atMost .lite k b).bindE fun r => ?_
  split
  · split
    · exact makeSync_atMost .archive k b
    · exact .done
  · exact .done

theorem listNeuronsImpl_atMost (hasArchive : Bool) (b : Int) :
    (SuperTensor.listNeuronsImpl hasArchive b).AtMost key (readBound .neurons b key) := by
  have hfetch : (SuperTensor.listNeuronsImpl.fetch hasArchive b).AtMost key (readBound .neurons b key) :=
    (chainRead_atMost hasArchive .neurons b).bind (m := 0) fun _ => .neuronListAppend .done
  refine .neuronListGet fun x => ?_
  rcases x with _ | v
  · exact hfetch
  · dsimp only
    split_ifs
    · exact .done
    · exact hfetch

/-- The requests the `self` calls of a `Methods` table send for `key`, as functions of the block. -/
structure MethodsAtMost (m : Methods) (key : Source × Kind × Int) (neurons blockHash subnetState : Int → Nat) : Prop where
  neurons : ∀ b, (m.listNeuronsImpl b).AtMost key (neurons b)
  blockHash : ∀ b, (m.getBlockHash b).AtMost key (blockHash b)
  subnetState : ∀ b, (m.getSubnetState b).AtMost key (subnetState b)

variable {m : Methods} {fN fH fS : Int → Nat}

theorem listNeurons_atMost (h : MethodsAtMost m key fN fH fS) (b : Int) :
    (SuperTensor.listNeurons m b).AtMost key (3 * fN b) :=
  (h.neurons b).retryOnTimeout

theorem listValidators_atMost (h : MethodsAtMost m key fN fH fS) (b : Int) :
    (SuperTensor.listValidators m b).AtMost key (3 * fN b + (fS b + 0)) :=
  (listNeurons_atMost h b).bind fun _ => (h.subnetState b).bind fun _ => .done

theorem getMetagraph_atMost (h : MethodsAtMost m key fN fH fS) (b : Int) :
    (SuperTensor.getMetagraph m b).AtMost key (3 * (fH b + (3 * fN b + (fS b + 0)))) :=
  Prog.AtMost.retryOnTimeout <|
    (h.blockHash b).bind fun _ => (listNeurons_atMost h b).bind fun _ => (h.subnetState b).bind fun _ => .done

theorem plainMethods_atMost (hasArchive : Bool) :
    MethodsAtMost (SuperTensor.methods hasArchive) key (fun b => readBound .neurons b key)
      (fun b => 3 * readBound .blockHash b key) (fun b => 3 * readBound .subnetState b key) where
  neurons b := listNeuronsImpl_atMost hasArchive b
  blockHash b := (chainRead_atMost hasArchive .blockHash b).retryOnTimeout
  subnetState b := (chainRead_atMost hasArchive .subnetState b).retryOnTimeout

/-- A consumer getter sends only what its miss path sends. -/
theorem cacheFirst_atMost {throw : Bool} {k : Kind} {b : Int} {miss : Prog k.Val} {n : Nat} (h : miss.AtMost key n) :
    (PrecachingSuperTensor.cacheFirst throw k b miss).AtMost key n := by
  refine .setStartingBlock (.cacheGet fun x => ?_)
  rcases x with _ | v
  · cases throw
    · exact h
    · exact .done
  · exact .done

theorem fetchAndPut_atMost {k : Kind} {b : Int} {fetch : Prog k.Val} {n : Nat} (h : fetch.AtMost key n) :
    (PrecachingSuperTensor.fetchAndPut k b fetch).AtMost key n :=
  h.bind (m := 0) fun _ => .cachePut .done

theorem precachingMethods_atMost (cfg : Config) :
    MethodsAtMost (PrecachingSuperTensor.methods cfg) key (fun b => readBound .neurons b key)
      (fun b => 3 * (3 * readBound .blockHash b key)) (fun b => 3 * readBound .subnetState b key) where
  neurons b := cacheFirst_atMost (fetchAndPut_atMost (listNeuronsImpl_atMost cfg.hasArchive b))
  blockHash b := Prog.AtMost.retryOnTimeout <|
    cacheFirst_atMost (fetchAndPut_atMost ((plainMethods_atMost cfg.hasArchive).blockHash b))
  subnetState b := Prog.AtMost.retryOnTimeout <|
    cacheFirst_atMost (fetchAndPut_atMost (chainRead_atMost cfg.hasArchive .subnetState b))

end Combinators

/-! ## Adding up the bounds -/

namespace RequestsAux

theorem readBound_eq (k : Kind) (b : Int) (key : Source × Kind × Int) :
    readBound k b key = if key.2 = (k, b) then 1 else 0 := by
  obtain ⟨src, k', b'⟩ := key
  by_cases h : k' = k ∧ b' = b
  · obtain ⟨rfl, rfl⟩ := h
    cases src <;> simp [readBound, single]
  · have hne : ∀ s, (s, k, b) ≠ (src, k', b') := fun s e => h ⟨(congrArg (·.2.1) e).symm, (congrArg (·.2.2) e).symm⟩
    rw [readBound, single, single, if_neg (hne _), if_neg (hne _), if_neg fun e => h (Prod.ext_iff.1 e)]

theorem readBound_le_one (k : Kind) (b : Int) (key : Source × Kind × Int) : readBound k b key ≤ 1 := by
  rw [readBound_eq]
  split_ifs <;> omega

/-- A read retried by `RETRY_ON_TIMEOUT` sends at most three requests for one key. -/
theorem three_mul_readBound_le (k : Kind) (b : Int) (key : Source × Kind × Int) : 3 * readBound k b key ≤ 3 := by
  have := readBound_le_one k b key
  omega

/-- Reads of different kinds never ask for the same key. -/
theorem readBound_add_le_one (k k' : Kind) (hk : k ≠ k') (b : Int) (key : Source × Kind × Int) :
    readBound k b key + readBound k' b key ≤ 1 := by
  rw [readBound_eq, readBound_eq]
  split_ifs with h1 h2 <;> simp_all

theorem readBound_three_le_one (b : Int) (key : Source × Kind × Int) :
    readBound .blockHash b key + readBound .neurons b key + readBound .subnetState b key ≤ 1 := by
  simp only [readBound_eq]
  split_ifs <;> simp_all

end RequestsAux

open RequestsAux

/-! ## Every read keeps to its bound -/

section Reads

variable {key : Source × Kind × Int}

/-- Every read of a plain `SuperTensor` sends at most `Query.plainBound` requests for one key. -/
theorem Query.plain_atMost (hasArchive : Bool) (q : Query) : (q.plain hasArchive).AtMost key q.plainBound := by
  have hm : MethodsAtMost _ key _ _ _ := plainMethods_atMost hasArchive
  cases q with
  | listNeurons b => exact (listNeurons_atMost hm b).mono (three_mul_readBound_le _ _ _)
  | getBlockTimestamp b =>
    exact (chainRead_atMost hasArchive .blockTimestamp b).retryOnTimeout.mono (three_mul_readBound_le _ _ _)
  | getBlockHash b => exact (hm.blockHash b).mono (three_mul_readBound_le _ _ _)
  | getSubnetState b => exact (hm.subnetState b).mono (three_mul_readBound_le _ _ _)
  | listValidators b =>
    exact (listValidators_atMost hm b).mono
      (by have := readBound_add_le_one .neurons .subnetState (by decide) b key; show _ ≤ 3; omega)
  | getMetagraph b =>
    exact (getMetagraph_atMost hm b).mono (by have := readBound_three_le_one b key; show _ ≤ 9; omega)

/-- Every read of a `PrecachingSuperTensor` sends at most `Query.precachingBound` requests for one key. -/
theorem Query.precaching_atMost (cfg : Config) (q : Query) : (q.precaching cfg).AtMost key q.precachingBound := by
  have hm : MethodsAtMost _ key _ _ _ := precachingMethods_atMost cfg
  cases q with
  | listNeurons b => exact (listNeurons_atMost hm b).mono (three_mul_readBound_le _ _ _)
  | getBlockTimestamp b =>
    exact (Prog.AtMost.retryOnTimeout (cacheFirst_atMost (chainRead_atMost cfg.hasArchive .blockTimestamp b))).mono
      (three_mul_readBound_le _ _ _)
  | getBlockHash b => exact (hm.blockHash b).mono (by have := readBound_le_one .blockHash b key; show _ ≤ 9; omega)
  | getSubnetState b => exact (hm.subnetState b).mono (three_mul_readBound_le _ _ _)
  | listValidators b =>
    exact (cacheFirst_atMost (fetchAndPut_atMost (listValidators_atMost hm b))).mono
      (by have := readBound_add_le_one .neurons .subnetState (by decide) b key; show _ ≤ 3; omega)
  | getMetagraph b =>
    exact (getMetagraph_atMost hm b).mono (by have := readBound_three_le_one b key; show _ ≤ 27; omega)

end Reads

/-! ## From programs to runs -/

/-- A program that sends at most `n` requests for `key` does so in every run. -/
theorem Prog.AtMost.count_le {α : Type} {key : Source × Kind × Int} {n : Nat} {p : Prog α} (h : p.AtMost key n)
    (c : Chain) (replies : List Reply) (ctx : Ctx) : (p.runAlone c replies ctx).keys.count key ≤ n := by
  induction h generalizing replies ctx with
  | done => simp [Prog.runAlone, Run.keys]
  | @requestKey n src k b cont he _ ih =>
    have := ih ((replies.headD .ok).response (c.answer k b)) replies.tail ctx
    simp only [Run.keys, Prog.runAlone, List.map_cons, List.count_cons, he] at this ⊢
    simp only [beq_self_eq_true, if_true]
    omega
  | @requestOther n src k b cont he _ ih =>
    have := ih ((replies.headD .ok).response (c.answer k b)) replies.tail ctx
    simp only [Run.keys, Prog.runAlone, List.map_cons, List.count_cons] at this ⊢
    simp only [beq_iff_eq, he, if_false]
    omega
  | cacheGet _ ih => exact ih _ _ _
  | cachePut _ ih => exact ih _ _
  | neuronListGet _ ih => exact ih _ _ _
  | neuronListAppend _ ih => exact ih _ _
  | setStartingBlock _ ih => exact ih _ _

/-- However the chain answers and whatever the caches hold, a read of a plain `SuperTensor` sends at most 3 requests
for one (source, kind, block), and `get_metagraph` at most 9. -/
theorem plain_requests_le (c : Chain) (hasArchive : Bool) (q : Query) (replies : List Reply) (ctx : Ctx)
    (key : Source × Kind × Int) : ((q.plain hasArchive).runAlone c replies ctx).keys.count key ≤ q.plainBound :=
  (Query.plain_atMost hasArchive q).count_le c replies ctx

/-- However the chain answers and whatever the caches hold, a read of a `PrecachingSuperTensor` sends at most 3
requests for one (source, kind, block), `get_block_hash` at most 9 and `get_metagraph` at most 27. -/
theorem precaching_requests_le (c : Chain) (cfg : Config) (q : Query) (replies : List Reply) (ctx : Ctx)
    (key : Source × Kind × Int) : ((q.precaching cfg).runAlone c replies ctx).keys.count key ≤ q.precachingBound :=
  (Query.precaching_atMost cfg q).count_le c replies ctx

/-- When every request times out, nested `RETRY_ON_TIMEOUT`s send the lite node 9 requests for the hash of block 7
from a plain `get_metagraph`, 9 from `PrecachingSuperTensor.get_block_hash` on a cache miss and 27 from
`PrecachingSuperTensor.get_metagraph`, where the retry policy allows 3 attempts; each read then raises
`SuperTensorTimeout`. -/
theorem nested_retries_timeouts (c : Chain) :
    ((Query.plain false (.getMetagraph 7)).runAlone c (List.replicate 9 .timeout) Ctx.init).requests =
      List.replicate 9 (.lite, .blockHash, 7, .timeout) ∧
    ((Query.plain false (.getMetagraph 7)).runAlone c (List.replicate 9 .timeout) Ctx.init).result =
      .error .superTensorTimeout ∧
    ((Query.precaching ⟨false, false, false⟩ (.getBlockHash 7)).runAlone c (List.replicate 9 .timeout)
      Ctx.init).requests = List.replicate 9 (.lite, .blockHash, 7, .timeout) ∧
    ((Query.precaching ⟨false, false, false⟩ (.getBlockHash 7)).runAlone c (List.replicate 9 .timeout)
      Ctx.init).result = .error .superTensorTimeout ∧
    ((Query.precaching ⟨false, false, false⟩ (.getMetagraph 7)).runAlone c (List.replicate 27 .timeout)
      Ctx.init).requests = List.replicate 27 (.lite, .blockHash, 7, .timeout) ∧
    ((Query.precaching ⟨false, false, false⟩ (.getMetagraph 7)).runAlone c (List.replicate 27 .timeout)
      Ctx.init).result = .error .superTensorTimeout :=
  ⟨rfl, rfl, rfl, rfl, rfl, rfl⟩

end ComputeHorde
