import ComputeHorde.Chain.Data
import Mathlib.Logic.Function.Basic

/-!
# `InMemoryCache`: the default backend of the prefetch cache

`BaseCache` declares a `put_<kind>` and a `get_<kind>` for each of the five datum kinds; `InMemoryCache` keeps one dict
per kind, keyed by block number. Here the five dicts are one map from a kind and a block to an optional value of that
kind: `get` is `dict.get` and `put` is `dict[block] = value`, so the cache is a last-write-wins map keyed by
`(kind, block)` (`get_put_self`, `get_put_of_ne`, `get_foldl_put_*`).
-/

namespace ComputeHorde

/-- `InMemoryCache`: `store k` is the dict of kind `k` (`_neuron_cache`, `_block_timestamp_cache`, `_block_hash_cache`,
`_subnet_state_cache`, `_validators_cache`). -/
structure InMemoryCache where
  store : (k : Kind) → Int → Option k.Val

/-- One `put_<kind>(block_number, value)` call, as a record: the kind, the block and the value. -/
structure CacheWrite where
  kind : Kind
  block : Int
  value : kind.Val

namespace InMemoryCache

/-- `InMemoryCache()`: five empty dicts. -/
def empty : InMemoryCache := ⟨fun _ _ => none⟩

/-- `get_<kind>(block_number)`: `self._<kind>_cache.get(block_number)`. -/
def get (c : InMemoryCache) (k : Kind) (b : Int) : Option k.Val := c.store k b

/-- `put_<kind>(block_number, value)`: `self._<kind>_cache[block_number] = value`. -/
def put (c : InMemoryCache) (k : Kind) (b : Int) (v : k.Val) : InMemoryCache :=
  ⟨Function.update c.store k (Function.update (c.store k) b (some v))⟩

/-- `put_neurons`. -/
def putNeurons (c : InMemoryCache) : Int → List Neuron → InMemoryCache := c.put .neurons
/-- `put_block_timestamp`. -/
def putBlockTimestamp (c : InMemoryCache) : Int → Timestamp → InMemoryCache := c.put .blockTimestamp
/-- `put_block_hash`. -/
def putBlockHash (c : InMemoryCache) : Int → String → InMemoryCache := c.put .blockHash
/-- `put_subnet_state`. -/
def putSubnetState (c : InMemoryCache) : Int → SubnetState → InMemoryCache := c.put .subnetState
/-- `put_validators`. -/
def putValidators (c : InMemoryCache) : Int → List ValidatorModel → InMemoryCache := c.put .validators
/-- `get_neurons`. -/
def getNeurons (c : InMemoryCache) : Int → Option (List Neuron) := c.get .neurons
/-- `get_block_timestamp`. -/
def getBlockTimestamp (c : InMemoryCache) : Int → Option Timestamp := c.get .blockTimestamp
/-- `get_block_hash`. -/
def getBlockHash (c : InMemoryCache) : Int → Option String := c.get .blockHash
/-- `get_subnet_state`. -/
def getSubnetState (c : InMemoryCache) : Int → Option SubnetState := c.get .subnetState
/-- `get_validators`. -/
def getValidators (c : InMemoryCache) : Int → Option (List ValidatorModel) := c.get .validators

/-- Apply one recorded write. -/
def write (c : InMemoryCache) (w : CacheWrite) : InMemoryCache := c.put w.kind w.block w.value

@[simp] theorem get_empty (k : Kind) (b : Int) : empty.get k b = none := rfl

/-- A get of the key just written returns the value written. -/
@[simp] theorem get_put_self (c : InMemoryCache) (k : Kind) (b : Int) (v : k.Val) : (c.put k b v).get k b = some v := by
  simp [get, put]

/-- A write leaves every other key as it was. -/
theorem get_put_of_ne (c : InMemoryCache) {k k' : Kind} {b b' : Int} (v : k.Val) (h : k' ≠ k ∨ b' ≠ b) :
    (c.put k b v).get k' b' = c.get k' b' := by
  by_cases hk : k' = k
  · subst hk
    have hb : b' ≠ b := h.resolve_left (not_not.2 rfl)
    simp [get, put, hb]
  · simp [get, put, Function.update_noteq hk]

/-- Writes that all miss a key leave it as it was. -/
theorem get_foldl_write_of_forall (c : InMemoryCache) (ws : List CacheWrite) (k : Kind) (b : Int)
    (h : ∀ w ∈ ws, w.kind ≠ k ∨ w.block ≠ b) : (ws.foldl write c).get k b = c.get k b := by
  induction ws generalizing c with
  | nil => rfl
  | cons w ws ih =>
    rw [List.foldl_cons, ih _ fun w' hw' => h w' (List.mem_cons_of_mem _ hw'), write]
    exact get_put_of_ne c w.value ((h w (List.mem_cons_self _ _)).imp Ne.symm Ne.symm)

/-- After a sequence of writes, a key holds the value of the last write to it. -/
theorem get_foldl_write_last (c : InMemoryCache) (pre post : List CacheWrite) (k : Kind) (b : Int) (v : k.Val)
    (h : ∀ w ∈ post, w.kind ≠ k ∨ w.block ≠ b) :
    ((pre ++ ⟨k, b, v⟩ :: post).foldl write c).get k b = some v := by
  rw [List.foldl_append, List.foldl_cons, get_foldl_write_of_forall _ _ _ _ h]
  exact get_put_self _ k b v

end InMemoryCache

end ComputeHorde
