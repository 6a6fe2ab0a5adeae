import ComputeHorde.Chain.SuperTensor

/-!
# `PrecachingSuperTensor`: the consumer getters and the worker tasks

A consumer getter records the block it was asked for (`set_starting_block`), returns a hit of the shared cache, and on
a miss either raises `PrecachingSuperTensorCacheMiss` (with `throw_on_cache_miss`) or reads through the plain
`SuperTensor` and, for four of the five kinds, stores what it read. The five getters differ only in their arguments
to `cacheFirst`, except in two ways that the definitions keep: `get_block_timestamp` does not store what it read, and
`get_block_hash` reads through the public, retried `get_block_hash` where its siblings call the undecorated read.

A worker takes a task `(kind, block)`, skips it when the cache holds the entry, and otherwise reads it through its own
plain `SuperTensor` and stores it (`workerFill`).
-/

namespace ComputeHorde

/-- The constructor arguments of a `PrecachingSuperTensor` that the model reads. -/
structure Config where
  /-- `archive_network` is set, so `archive_bittensor` is not `None`. -/
  hasArchive : Bool
  throwOnCacheMiss : Bool
  enableWorkers : Bool
  deriving DecidableEq, Repr

namespace PrecachingSuperTensor

/-- The shape the consumer getters share: `set_starting_block(b)`, then the cache; a hit is returned, a miss raises
`PrecachingSuperTensorCacheMiss` when `throw_on_cache_miss` is set and runs `miss` otherwise. -/
def cacheFirst (throwOnCacheMiss : Bool) (k : Kind) (b : Int) (miss : Prog k.Val) : Prog k.Val :=
  .setStartingBlock b <| .cacheGet k b fun
    | some v => .done (.ok v)
    | none => if throwOnCacheMiss then .done (.error .cacheMiss) else miss

/-- A miss path that stores what it read: `value = ...; self.cache.put_<kind>(b, value); return value`. -/
def fetchAndPut (k : Kind) (b : Int) (fetch : Prog k.Val) : Prog k.Val := do
  let v ← fetch
  .cachePut k b v (pure v)

/-- `_list_neurons`: on a miss, `super()._list_neurons`, stored. -/
def listNeuronsImpl (cfg : Config) (b : Int) : Prog (List Neuron) :=
  cacheFirst cfg.throwOnCacheMiss .neurons b (fetchAndPut .neurons b (SuperTensor.listNeuronsImpl cfg.hasArchive b))

/-- `get_block_timestamp`: on a miss, `super()._get_block_timestamp`, returned without being stored. -/
def getBlockTimestamp (cfg : Config) (b : Int) : Prog Timestamp :=
  retryOnTimeout (cacheFirst cfg.throwOnCacheMiss .blockTimestamp b (SuperTensor.getBlockTimestampImpl cfg.hasArchive b))

/-- `get_block_hash`: on a miss, the public `super().get_block_hash`, itself under `RETRY_ON_TIMEOUT`, stored. -/
def getBlockHash (cfg : Config) (b : Int) : Prog String :=
  retryOnTimeout (cacheFirst cfg.throwOnCacheMiss .blockHash b
    (fetchAndPut .blockHash b (SuperTensor.getBlockHash cfg.hasArchive b)))

/-- `get_subnet_state`: on a miss, `super()._get_subnet_state`, stored. -/
def getSubnetState (cfg : Config) (b : Int) : Prog SubnetState :=
  retryOnTimeout (cacheFirst cfg.throwOnCacheMiss .subnetState b
    (fetchAndPut .subnetState b (SuperTensor.getSubnetStateImpl cfg.hasArchive b)))

/-- The `self` calls of a `PrecachingSuperTensor`: its own overrides. -/
def methods (cfg : Config) : Methods where
  listNeuronsImpl := listNeuronsImpl cfg
  getBlockHash := getBlockHash cfg
  getSubnetState := getSubnetState cfg

/-- `list_validators`: on a miss, `super().list_validators`, whose `self` calls are the overrides, stored. -/
def listValidators (cfg : Config) (b : Int) : Prog (List ValidatorModel) :=
  cacheFirst cfg.throwOnCacheMiss .validators b
    (fetchAndPut .validators b (SuperTensor.listValidators (methods cfg) b))

/-- One branch of `worker`: skip the task when the cache holds the entry, else read it and put it. -/
def workerFill (k : Kind) (b : Int) (read : Prog k.Val) : Prog Unit :=
  .cacheGet k b fun
    | some _ => pure ()
    | none => do
      let v ← read
      .cachePut k b v (pure ())

/-- The task a worker runs for `(task, block_number)`, through its own `SuperTensor` `super_tensor`. -/
def workerTask (hasArchive : Bool) : Kind → Int → Prog Unit
  | .neurons, b => workerFill .neurons b (SuperTensor.listNeurons (SuperTensor.methods hasArchive) b)
  | .blockTimestamp, b => workerFill .blockTimestamp b (SuperTensor.getBlockTimestamp hasArchive b)
  | .blockHash, b => workerFill .blockHash b (SuperTensor.getBlockHash hasArchive b)
  | .subnetState, b => workerFill .subnetState b (SuperTensor.getSubnetState hasArchive b)
  | .validators, b => workerFill .validators b (SuperTensor.listValidators (SuperTensor.methods hasArchive) b)

end PrecachingSuperTensor

/-- A consumer call of a public read, at a block. -/
inductive Query where
  | listNeurons (b : Int)
  | getBlockTimestamp (b : Int)
  | getBlockHash (b : Int)
  | getSubnetState (b : Int)
  | listValidators (b : Int)
  | getMetagraph (b : Int)
  deriving DecidableEq, Repr

/-- What a read returns. -/
def Query.Val : Query → Type
  | .listNeurons _ => List Neuron
  | .getBlockTimestamp _ => Timestamp
  | .getBlockHash _ => String
  | .getSubnetState _ => SubnetState
  | .listValidators _ => List ValidatorModel
  | .getMetagraph _ => MetagraphData

/-- The read on a `PrecachingSuperTensor` with the given configuration. -/
def Query.precaching (cfg : Config) : (q : Query) → Prog q.Val
  | .listNeurons b => SuperTensor.listNeurons (PrecachingSuperTensor.methods cfg) b
  | .getBlockTimestamp b => PrecachingSuperTensor.getBlockTimestamp cfg b
  | .getBlockHash b => PrecachingSuperTensor.getBlockHash cfg b
  | .getSubnetState b => PrecachingSuperTensor.getSubnetState cfg b
  | .listValidators b => PrecachingSuperTensor.listValidators cfg b
  | .getMetagraph b => SuperTensor.getMetagraph (PrecachingSuperTensor.methods cfg) b

/-- The same read on a plain `SuperTensor`. -/
def Query.plain (hasArchive : Bool) : (q : Query) → Prog q.Val
  | .listNeurons b => SuperTensor.listNeurons (SuperTensor.methods hasArchive) b
  | .getBlockTimestamp b => SuperTensor.getBlockTimestamp hasArchive b
  | .getBlockHash b => SuperTensor.getBlockHash hasArchive b
  | .getSubnetState b => SuperTensor.getSubnetState hasArchive b
  | .listValidators b => SuperTensor.listValidators (SuperTensor.methods hasArchive) b
  | .getMetagraph b => SuperTensor.getMetagraph (SuperTensor.methods hasArchive) b

/-- The answer a chain determines for a read. -/
def Query.answer (c : Chain) : (q : Query) → q.Val
  | .listNeurons b => c.neurons b
  | .getBlockTimestamp b => c.blockTimestamp b
  | .getBlockHash b => c.blockHash b
  | .getSubnetState b => c.subnetState b
  | .listValidators b => c.answer .validators b
  | .getMetagraph b => c.metagraph b

end ComputeHorde
