import ComputeHorde.Precache.Precaching
import ComputeHorde.Precache.Producer

/-!
# The precaching world: instances, threads and their interleavings

One or more `PrecachingSuperTensor` instances share one cache backend. Each instance has a producer, a task queue,
`N_THREADS` workers when `enable_workers` is set, and its own neuron-list cache; consumer calls on an instance run as
threads of their own. A run is any sequence of `Event`s: a consumer call starts, a thread (a call or a worker) takes
one effect of its program, the producer runs one iteration, or an instance closes. Effects are atomic, so a run is any
interleaving of the threads at effect granularity; a request is answered with the chain's value or with an error,
as the `Reply` of the event says.

Besides the program state the world keeps what an observer sees: the calls that returned with their results, and per
instance the tasks the producer submitted (its "Submitting tasks" log line) and the tasks a worker abandoned on an
exception (logged, or silently for `ArchiveSubtensorNotConfigured`).
-/

namespace ComputeHorde

/-- `N_THREADS`. -/
def nThreads : Nat := 10

/-- How a chain source answers a request: with the chain's value (`ok`) or with an error. -/
inductive Reply where
  | ok
  | timeout
  | unknownBlock
  | failed
  deriving DecidableEq, Repr

/-- The response a reply gives to a request whose chain value is `v`. -/
def Reply.response {α : Type} (v : α) : Reply → Response α
  | .ok => .value v
  | .timeout => .timeout
  | .unknownBlock => .unknownBlock
  | .failed => .failed

/-- What a thread reads and writes: the shared cache, the neuron-list cache of its `SuperTensor`, and the producer
fields of its instance. -/
structure Ctx where
  cache : InMemoryCache
  neuronList : NeuronListCache
  producer : Producer

namespace Prog

variable {α : Type}

/-- The result of a program that has finished. -/
def result? : Prog α → Option (Except ReadError α)
  | done r => some r
  | _ => none

/-- One effect of a program, against chain `c`, with `reply` answering a request. -/
def step (c : Chain) (reply : Reply) (ctx : Ctx) : Prog α → Prog α × Ctx
  | done r => (done r, ctx)
  | request _ k b cont => (cont (reply.response (c.answer k b)), ctx)
  | cacheGet k b cont => (cont (ctx.cache.get k b), ctx)
  | cachePut k b v cont => (cont, { ctx with cache := ctx.cache.put k b v })
  | neuronListGet b cont => (cont (ctx.neuronList.lookup b), ctx)
  | neuronListAppend b v cont => (cont, { ctx with neuronList := ctx.neuronList.append b v })
  | setStartingBlock b cont => (cont, { ctx with producer := ctx.producer.setStartingBlock b })

end Prog

/-- A worker thread: waiting for a task (`while True` of `worker`, at `if self.closing` and `task_queue.get()`),
running the task `(k, b)` with its `SuperTensor`, whose neuron-list cache it carries, or returned. -/
inductive Worker where
  | idle (neuronList : NeuronListCache)
  | busy (k : Kind) (b : Int) (neuronList : NeuronListCache) (prog : Prog Unit)
  | quit

/-- A `PrecachingSuperTensor`. `submitted` and `dropped` are the observer's record of the producer's submissions and
of the tasks workers abandoned, with the error that ended each. -/
structure Instance where
  config : Config
  producer : Producer
  closing : Bool
  taskQueue : List (TaskType × Int)
  neuronList : NeuronListCache
  workers : List Worker
  submitted : List (TaskType × Int)
  dropped : List (Kind × Int × ReadError)

/-- `PrecachingSuperTensor(...)`: workers and producer started when `enable_workers` is set. -/
def Instance.init (cfg : Config) : Instance where
  config := cfg
  producer := Producer.init
  closing := false
  taskQueue := []
  neuronList := NeuronListCache.empty
  workers := if cfg.enableWorkers then List.replicate nThreads (.idle NeuronListCache.empty) else []
  submitted := []
  dropped := []

/-- A consumer call in progress on instance `inst`, whose configuration it was built from. -/
structure Call where
  inst : Nat
  config : Config
  query : Query
  prog : Prog query.Val

/-- A consumer call that returned, with its result. -/
structure Returned where
  inst : Nat
  config : Config
  query : Query
  result : Except ReadError query.Val

/-- The instances, the cache backend they share, the calls in progress, and the calls that returned. -/
structure World where
  cache : InMemoryCache
  instances : List Instance
  calls : List Call
  returned : List Returned

/-- What happens next. -/
inductive Event where
  /-- A consumer calls `q` on instance `i`. -/
  | start (i : Nat) (q : Query)
  /-- Call `j` takes one effect (or returns, when it has finished). -/
  | call (j : Nat) (reply : Reply)
  /-- Worker `w` of instance `i` takes one step. -/
  | work (i w : Nat) (reply : Reply)
  /-- The producer of instance `i` runs one iteration. -/
  | produce (i : Nat) (currentBlock : Option Int)
  /-- `close()` on instance `i`. -/
  | close (i : Nat)

namespace World

/-- The world as the instances with these configurations start it. -/
def init (configs : List Config) : World :=
  ⟨InMemoryCache.empty, configs.map Instance.init, [], []⟩

/-- Replace instance `i` by `inst`. -/
def updateInstance (w : World) (i : Nat) (inst : Instance) : World :=
  { w with instances := w.instances.set i inst }

/-- A consumer call starts. -/
def start (w : World) (i : Nat) (q : Query) : World :=
  match w.instances[i]? with
  | none => w
  | some inst => { w with calls := w.calls ++ [⟨i, inst.config, q, q.precaching inst.config⟩] }

/-- Call `j` returns when its program has finished, and takes one effect otherwise. -/
def stepCall (c : Chain) (w : World) (j : Nat) (reply : Reply) : World :=
  match w.calls[j]? with
  | none => w
  | some call =>
    match call.prog.result? with
    | some r => { w with calls := w.calls.eraseIdx j, returned := w.returned ++ [⟨call.inst, call.config, call.query, r⟩] }
    | none =>
      match w.instances[call.inst]? with
      | none => w
      | some inst =>
        let s := call.prog.step c reply ⟨w.cache, inst.neuronList, inst.producer⟩
        { cache := s.2.cache
          instances := w.instances.set call.inst { inst with neuronList := s.2.neuronList, producer := s.2.producer }
          calls := w.calls.set j { call with prog := s.1 }
          returned := w.returned }

/-- A waiting worker quits when the instance is closing; otherwise it takes the next task, quitting on `THE_END`
and blocking on an empty queue. -/
def takeTask (inst : Instance) (wi : Nat) (nl : NeuronListCache) : Instance :=
  if inst.closing then { inst with workers := inst.workers.set wi .quit }
  else
    match inst.taskQueue with
    | [] => inst
    | (.theEnd, _) :: rest => { inst with taskQueue := rest, workers := inst.workers.set wi .quit }
    | (.datum k, b) :: rest =>
      { inst with
        taskQueue := rest
        workers := inst.workers.set wi (.busy k b nl (PrecachingSuperTensor.workerTask inst.config.hasArchive k b)) }

/-- Worker `wi` of instance `i` takes one step. A task that ends in an error is dropped and the worker starts over
with a new `SuperTensor` (`except ArchiveSubtensorNotConfigured: pass`, `except Exception: ...; time.sleep(1)`). -/
def stepWorker (c : Chain) (w : World) (i wi : Nat) (reply : Reply) : World :=
  match w.instances[i]? with
  | none => w
  | some inst =>
    match inst.workers[wi]? with
    | none => w
    | some .quit => w
    | some (.idle nl) => w.updateInstance i (takeTask inst wi nl)
    | some (.busy k b nl p) =>
      match p.result? with
      | some (.ok _) => w.updateInstance i { inst with workers := inst.workers.set wi (.idle nl) }
      | some (.error e) =>
        w.updateInstance i
          { inst with
            workers := inst.workers.set wi (.idle NeuronListCache.empty)
            dropped := inst.dropped ++ [(k, b, e)] }
      | none =>
        let s := p.step c reply ⟨w.cache, nl, inst.producer⟩
        { w.updateInstance i
            { inst with workers := inst.workers.set wi (.busy k b s.2.neuronList s.1), producer := s.2.producer } with
          cache := s.2.cache }

/-- One iteration of the producer of instance `i`, which runs only when workers are enabled and stops at `closing`. -/
def produce (w : World) (i : Nat) (currentBlock : Option Int) : World :=
  match w.instances[i]? with
  | none => w
  | some inst =>
    if inst.config.enableWorkers ∧ ¬inst.closing then
      let s := inst.producer.iterate currentBlock
      w.updateInstance i
        { inst with producer := s.1, taskQueue := inst.taskQueue ++ s.2, submitted := inst.submitted ++ s.2 }
    else w

/-- `close()`: set `closing` and, with workers, put one `THE_END` per worker. -/
def close (w : World) (i : Nat) : World :=
  match w.instances[i]? with
  | none => w
  | some inst =>
    w.updateInstance i
      { inst with
        closing := true
        taskQueue := if inst.config.enableWorkers then inst.taskQueue ++ List.replicate nThreads (.theEnd, 0)
          else inst.taskQueue }

/-- One event. -/
def step (c : Chain) (w : World) : Event → World
  | .start i q => w.start i q
  | .call j reply => w.stepCall c j reply
  | .work i wi reply => w.stepWorker c i wi reply
  | .produce i currentBlock => w.produce i currentBlock
  | .close i => w.close i

/-- A run from the start. -/
def run (c : Chain) (configs : List Config) (evs : List Event) : World :=
  evs.foldl (step c) (init configs)

end World

/-- A property of every element survives replacing one element by another that has it: the step of every invariant
over instances, workers and calls. -/
theorem forall_mem_set {α : Type} {P : α → Prop} {l : List α} (h : ∀ x ∈ l, P x) (i : Nat) (a : α) (ha : P a) :
    ∀ x ∈ l.set i a, P x :=
  fun x hx => (List.mem_or_eq_of_mem_set hx).elim (h x) fun e => e ▸ ha

end ComputeHorde
