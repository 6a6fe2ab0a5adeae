import ComputeHorde.Precache.World

/-!
# `DjangoCache` and the `supertensor()` singleton

`supertensor()` builds its `PrecachingSuperTensor` on a `DjangoCache`, the persistent backend meant to let producer
and consumer processes share the prefetch cache. `BaseCache` declares its ten `put_<kind>` and `get_<kind>` methods
abstract, and `abc.ABCMeta` refuses to instantiate a subclass that leaves one undefined. `DjangoCache` defines eight:
it has no `put_block_hash` or `get_block_hash`. So `DjangoCache()` raises `TypeError` before `PrecachingSuperTensor`
is entered, `_supertensor_instance` stays `None`, and every call of `supertensor()` raises
(`supertensor_djangoCache_raises`): no get ever runs on a `DjangoCache`. `InMemoryCache` defines all ten.
-/

namespace ComputeHorde

/-- A class deriving from an abstract base, as `abc.ABCMeta` builds it: the base's `__abstractmethods__` and the
methods the class body defines, none of them abstract. -/
structure AbcSubclass where
  name : String
  baseAbstract : List String
  defines : List String
  deriving DecidableEq, Repr

/-- The `TypeError` that instantiating a class with abstract methods raises: the class and those methods. -/
structure AbstractTypeError where
  className : String
  abstractMethods : List String
  deriving DecidableEq, Repr

namespace AbcSubclass

/-- `cls.__abstractmethods__`: the base's abstract methods the class does not define. -/
def abstractMethods (c : AbcSubclass) : List String := c.baseAbstract.filter (· ∉ c.defines)

/-- `cls()`: `object.__new__` raises `TypeError` while an abstract method is left, and builds the instance otherwise. -/
def instantiate (c : AbcSubclass) : Except AbstractTypeError Unit :=
  if c.abstractMethods = [] then .ok () else .error ⟨c.name, c.abstractMethods⟩

/-- A class is instantiated exactly when it defines every abstract method of its base. -/
theorem instantiate_eq_ok_iff (c : AbcSubclass) : c.instantiate = .ok () ↔ ∀ m ∈ c.baseAbstract, m ∈ c.defines := by
  unfold instantiate abstractMethods
  split <;> rename_i h <;> simpa [List.filter_eq_nil_iff] using h

end AbcSubclass

/-- The methods `BaseCache` declares `@abc.abstractmethod`, in its order. -/
def baseCacheAbstractMethods : List String :=
  ["put_neurons", "put_block_timestamp", "put_block_hash", "get_neurons", "get_block_timestamp", "get_block_hash",
    "put_subnet_state", "get_subnet_state", "put_validators", "get_validators"]

/-- `class InMemoryCache(BaseCache)` and the methods its body defines. -/
def inMemoryCache : AbcSubclass where
  name := "InMemoryCache"
  baseAbstract := baseCacheAbstractMethods
  defines := ["__init__", "put_neurons", "put_block_timestamp", "put_block_hash", "get_neurons", "get_block_timestamp",
    "get_block_hash", "put_subnet_state", "get_subnet_state", "put_validators", "get_validators"]

/-- `class DjangoCache(BaseCache)` and the methods its body defines. -/
def djangoCache : AbcSubclass where
  name := "DjangoCache"
  baseAbstract := baseCacheAbstractMethods
  defines := ["__init__", "_get_key", "put_neurons", "put_block_timestamp", "get_neurons", "get_block_timestamp",
    "put_subnet_state", "get_subnet_state", "put_validators", "get_validators"]

/-- `supertensor()`, with the module global `_supertensor_instance` as its state. A call with the global unset
evaluates `DjangoCache()`, then builds `PrecachingSuperTensor(cache=..., enable_workers=False)` with the default
`throw_on_cache_miss=False` and stores it; a later call returns the stored instance. `hasArchive` is whether
`BITTENSOR_ARCHIVE_NETWORK` is set. -/
def supertensor (hasArchive : Bool) : Option Instance → Except AbstractTypeError Instance × Option Instance
  | some inst => (.ok inst, some inst)
  | none =>
    match djangoCache.instantiate with
    | .error e => (.error e, none)
    | .ok () =>
      let inst := Instance.init { hasArchive, throwOnCacheMiss := false, enableWorkers := false }
      (.ok inst, some inst)

/-- `DjangoCache()` raises `TypeError` for `put_block_hash` and `get_block_hash`, which `InMemoryCache` defines. So
`supertensor()` raises on its first call and leaves `_supertensor_instance` unset, and every later call raises the
same, with or without an archive network. -/
theorem supertensor_djangoCache_raises (hasArchive : Bool) :
    djangoCache.instantiate = .error ⟨"DjangoCache", ["put_block_hash", "get_block_hash"]⟩ ∧
    inMemoryCache.instantiate = .ok () ∧
    ∀ n, (supertensor hasArchive ((fun s => (supertensor hasArchive s).2)^[n] none)) =
      (.error ⟨"DjangoCache", ["put_block_hash", "get_block_hash"]⟩, none) := by
  have hraise : supertensor hasArchive none = (.error ⟨"DjangoCache", ["put_block_hash", "get_block_hash"]⟩, none) :=
    rfl
  refine ⟨rfl, (inMemoryCache.instantiate_eq_ok_iff).2 (by decide), fun n => ?_⟩
  rw [Function.iterate_fixed (congrArg Prod.snd hraise) n, hraise]

end ComputeHorde
