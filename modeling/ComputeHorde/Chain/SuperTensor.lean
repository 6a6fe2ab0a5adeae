import ComputeHorde.Chain.Prog

/-!
# `SuperTensor`: the chain reads and their decorators

Each chain read of `SuperTensor` is an `async` function run to completion under `make_sync` (a `DEFAULT_TIMEOUT`
that turns into `SuperTensorTimeout`), wrapped in `archive_fallback` (on `UnknownBlock` from the lite node, the same
read again on the archive node, or `ArchiveSubtensorNotConfigured` when there is none), and the public reads are
wrapped in `RETRY_ON_TIMEOUT` (up to three attempts, again only after `SuperTensorTimeout`).

`list_validators`, `_build_metagraph_data` and `list_neurons` call other reads through `self`, so a subclass's
overrides take their place: `Methods` is the table of those `self` calls, and the reads that use it take it as an
argument (`SuperTensor.methods` for a plain `SuperTensor`).
-/

namespace ComputeHorde

/-- `_neuron_list_cache`: a `deque(maxlen=15)` of `(block, neurons)` pairs, oldest first. -/
structure NeuronListCache where
  entries : List (Int × List Neuron)

/-- The `maxlen` of `_neuron_list_cache`. -/
def neuronListCacheMaxlen : Nat := 15

namespace NeuronListCache

/-- A new `deque(maxlen=15)`. -/
def empty : NeuronListCache := ⟨[]⟩

/-- `dict(self._neuron_list_cache).get(block_number)`: the latest pair for the block wins. -/
def lookup (c : NeuronListCache) (b : Int) : Option (List Neuron) :=
  (c.entries.reverse.find? fun e => e.1 = b).map (·.2)

/-- `self._neuron_list_cache.append((block_number, result))`: past `maxlen` the oldest pair drops out. -/
def append (c : NeuronListCache) (b : Int) (v : List Neuron) : NeuronListCache :=
  ⟨(c.entries ++ [(b, v)]).drop (c.entries.length + 1 - neuronListCacheMaxlen)⟩

/-- A lookup returns the neurons of a pair the deque holds for that block. -/
theorem mem_of_lookup {c : NeuronListCache} {b : Int} {v : List Neuron} (h : c.lookup b = some v) :
    (b, v) ∈ c.entries := by
  simp only [lookup, Option.map_eq_some'] at h
  obtain ⟨⟨b', v'⟩, hf, rfl⟩ := h
  have hb : b' = b := by simpa using List.find?_some hf
  subst hb
  exact List.mem_reverse.1 (List.mem_of_find?_eq_some hf)

/-- An append keeps some of the old pairs and adds the new one. -/
theorem mem_append {c : NeuronListCache} {b b' : Int} {v v' : List Neuron} (h : (b', v') ∈ (c.append b v).entries) :
    (b', v') ∈ c.entries ∨ (b' = b ∧ v' = v) := by
  have := List.mem_append.1 (List.mem_of_mem_drop h)
  simpa using this

end NeuronListCache

/-- `RETRY_ON_TIMEOUT`'s `stop_after_attempt(3)`. -/
def retryAttempts : Nat := 3

/-- `tenacity.retry` with `retry_if_exception_type(SuperTensorTimeout)` and `reraise=True`: run `p`, and after a
`SuperTensorTimeout` run it again, `n` more times at most; the last attempt's error is re-raised. The waits between
attempts are not modelled. -/
def retryUpTo (p : Prog α) : Nat → Prog α
  | 0 => p
  | n + 1 => p.bindE fun
    | .error .superTensorTimeout => retryUpTo p n
    | r => .done r

/-- `RETRY_ON_TIMEOUT`: up to `retryAttempts` attempts. -/
def retryOnTimeout (p : Prog α) : Prog α := retryUpTo p (retryAttempts - 1)

/-- `make_sync` around one chain read of kind `k` at block `b` from source `src`: a timeout becomes
`SuperTensorTimeout`, any other error propagates. -/
def makeSync (src : Source) (k : Kind) (b : Int) : Prog k.Val :=
  .request src k b fun
    | .value v => .done (.ok v)
    | .timeout => .done (.error .superTensorTimeout)
    | .unknownBlock => .done (.error .unknownBlock)
    | .failed => .done (.error .failed)

/-- `archive_fallback`: run the read on the lite node; on `UnknownBlock`, raise `ArchiveSubtensorNotConfigured` when no
archive node is configured, else run it once more on the archive node. -/
def archiveFallback (hasArchive : Bool) (func : Source → Prog α) : Prog α :=
  (func .lite).bindE fun
    | .error .unknownBlock => if hasArchive then func .archive else .done (.error .archiveSubtensorNotConfigured)
    | r => .done r

/-- A read as the decorators `@archive_fallback @make_sync` make it. -/
def chainRead (hasArchive : Bool) (k : Kind) (b : Int) : Prog k.Val :=
  archiveFallback hasArchive fun src => makeSync src k b

/-- The `self` calls other reads make, which a subclass may override: `self._list_neurons`, `self.get_block_hash` and
`self.get_subnet_state`. -/
structure Methods where
  listNeuronsImpl : Int → Prog (List Neuron)
  getBlockHash : Int → Prog String
  getSubnetState : Int → Prog SubnetState

namespace SuperTensor

/-- `_real_list_neurons`. -/
def realListNeurons (hasArchive : Bool) (b : Int) : Prog (List Neuron) := chainRead hasArchive .neurons b

/-- `_get_block_timestamp`. -/
def getBlockTimestampImpl (hasArchive : Bool) (b : Int) : Prog Timestamp := chainRead hasArchive .blockTimestamp b

/-- `_get_subnet_state`. -/
def getSubnetStateImpl (hasArchive : Bool) (b : Int) : Prog SubnetState := chainRead hasArchive .subnetState b

/-- `_get_block_hash`. -/
def getBlockHashImpl (hasArchive : Bool) (b : Int) : Prog String := chainRead hasArchive .blockHash b

/-- `SuperTensor._list_neurons`: a hit of the neuron-list cache that is not empty is returned as it is; otherwise
`_real_list_neurons`, whose result is appended to the neuron-list cache. -/
def listNeuronsImpl (hasArchive : Bool) (b : Int) : Prog (List Neuron) :=
  .neuronListGet b fun hit =>
    match hit with
    | some neurons => if neurons ≠ [] then .done (.ok neurons) else fetch
    | none => fetch
where
  fetch : Prog (List Neuron) := do
    let result ← realListNeurons hasArchive b
    .neuronListAppend b result (pure result)

/-- `get_block_timestamp`. -/
def getBlockTimestamp (hasArchive : Bool) (b : Int) : Prog Timestamp := retryOnTimeout (getBlockTimestampImpl hasArchive b)

/-- `get_subnet_state`. -/
def getSubnetState (hasArchive : Bool) (b : Int) : Prog SubnetState := retryOnTimeout (getSubnetStateImpl hasArchive b)

/-- `get_block_hash`. -/
def getBlockHash (hasArchive : Bool) (b : Int) : Prog String := retryOnTimeout (getBlockHashImpl hasArchive b)

/-- The `self` calls of a plain `SuperTensor`. -/
def methods (hasArchive : Bool) : Methods where
  listNeuronsImpl := listNeuronsImpl hasArchive
  getBlockHash := getBlockHash hasArchive
  getSubnetState := getSubnetState hasArchive

/-- `list_neurons`: `self._list_neurons` under `RETRY_ON_TIMEOUT`. -/
def listNeurons (self : Methods) (b : Int) : Prog (List Neuron) := retryOnTimeout (self.listNeuronsImpl b)

/-- `list_validators`: the neurons and the subnet state of the block, through `self`. -/
def listValidators (self : Methods) (b : Int) : Prog (List ValidatorModel) := do
  let neurons ← listNeurons self b
  let subnetState ← self.getSubnetState b
  pure (validatorsOf neurons subnetState)

/-- `_build_metagraph_data`: the block hash, the neurons and the subnet state of the block, through `self`. -/
def buildMetagraphData (self : Methods) (b : Int) : Prog MetagraphData := do
  let blockHash ← self.getBlockHash b
  let neurons ← listNeurons self b
  let subnetState ← self.getSubnetState b
  pure (metagraphOf b blockHash neurons subnetState)

/-- `get_metagraph(block_number)` for a given block: `_build_metagraph_data` under `RETRY_ON_TIMEOUT`. -/
def getMetagraph (self : Methods) (b : Int) : Prog MetagraphData := retryOnTimeout (buildMetagraphData self b)

end SuperTensor

end ComputeHorde
