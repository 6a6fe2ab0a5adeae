import ComputeHorde.Cache.InMemory

/-!
# Thread programs of `SuperTensor` and `PrecachingSuperTensor`

Every read of `SuperTensor`, every consumer getter of `PrecachingSuperTensor` and every task of its workers is a
program that a thread runs one effect at a time: a request to a chain source, a read or write of the shared prefetch
cache, a read or append of the `SuperTensor`'s own neuron-list cache (`_neuron_list_cache`), or the
`set_starting_block` call that nudges the producer. `Prog` is that program as data, with a continuation for each
effect (the free monad over these effects); threads of the precaching world interleave at each effect.

A program ends with a value or with one of the errors the code raises (`ReadError`); `bindE` continues with the
result, whichever it is, which is how the decorators (`archive_fallback`, `RETRY_ON_TIMEOUT`) inspect errors.
-/

namespace ComputeHorde

/-- The two chain endpoints a `SuperTensor` may read from: the lite node (`network`) and the archive node
(`archive_network`). -/
inductive Source where
  | lite
  | archive
  deriving DecidableEq, Repr

/-- How a source answers one request: with the value, or by timing out (`asyncio.wait_for` hits `DEFAULT_TIMEOUT`), by
raising `UnknownBlock` (a pruned block), or by raising any other error. -/
inductive Response (α : Type) where
  | value (v : α)
  | timeout
  | unknownBlock
  | failed
  deriving DecidableEq, Repr

/-- The errors a read ends with. -/
inductive ReadError where
  /-- `turbobt.substrate.exceptions.UnknownBlock`, when it escapes `archive_fallback`. -/
  | unknownBlock
  | archiveSubtensorNotConfigured
  | superTensorTimeout
  /-- `PrecachingSuperTensorCacheMiss`. -/
  | cacheMiss
  /-- Any other exception a source raises. -/
  | failed
  deriving DecidableEq, Repr

/-- A thread program returning an `α`. -/
inductive Prog (α : Type) where
  | done (r : Except ReadError α)
  | request (src : Source) (k : Kind) (b : Int) (cont : Response k.Val → Prog α)
  | cacheGet (k : Kind) (b : Int) (cont : Option k.Val → Prog α)
  | cachePut (k : Kind) (b : Int) (v : k.Val) (cont : Prog α)
  | neuronListGet (b : Int) (cont : Option (List Neuron) → Prog α)
  | neuronListAppend (b : Int) (v : List Neuron) (cont : Prog α)
  | setStartingBlock (b : Int) (cont : Prog α)

namespace Prog

variable {α β : Type}

/-- Run `p`, then continue with its result, a value or an error. -/
def bindE : Prog α → (Except ReadError α → Prog β) → Prog β
  | done r, f => f r
  | request src k b cont, f => request src k b fun x => (cont x).bindE f
  | cacheGet k b cont, f => cacheGet k b fun x => (cont x).bindE f
  | cachePut k b v cont, f => cachePut k b v (cont.bindE f)
  | neuronListGet b cont, f => neuronListGet b fun x => (cont x).bindE f
  | neuronListAppend b v cont, f => neuronListAppend b v (cont.bindE f)
  | setStartingBlock b cont, f => setStartingBlock b (cont.bindE f)

/-- Run `p`, then continue with its value; an error ends the program with that error. -/
def bind (p : Prog α) (f : α → Prog β) : Prog β :=
  p.bindE fun
    | .ok a => f a
    | .error e => done (.error e)

instance : Monad Prog where
  pure a := done (.ok a)
  bind := bind

/-- End with an error. -/
def throw (e : ReadError) : Prog α := done (.error e)

@[simp] theorem pure_eq (a : α) : (pure a : Prog α) = done (.ok a) := rfl

@[simp] theorem bind_eq (p : Prog α) (f : α → Prog β) : p >>= f = p.bind f := rfl

@[simp] theorem done_bindE (r : Except ReadError α) (f : Except ReadError α → Prog β) : (done r).bindE f = f r := rfl

@[simp] theorem done_ok_bind (a : α) (f : α → Prog β) : (done (.ok a)).bind f = f a := rfl

@[simp] theorem done_error_bind (e : ReadError) (f : α → Prog β) : (done (.error e) : Prog α).bind f = done (.error e) :=
  rfl

end Prog

end ComputeHorde
