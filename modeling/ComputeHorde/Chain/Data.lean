import Mathlib.Data.Rat.Defs
import Mathlib.Algebra.Order.Ring.Rat

/-!
# What `SuperTensor` reads from the chain

The records `SuperTensor` returns (`turbobt.Neuron`, the subnet state, `ValidatorModel`, `MetagraphData`), the five
datum kinds the prefetch cache keys its entries by (`TaskType` without `THE_END`), and the two values `SuperTensor`
derives from the others: the validator list (`list_validators`) and the metagraph (`_build_metagraph_data`).

A chain is one fixed answer per datum kind and block (`Chain`): spec invariant I4, the metagraph at a block is
reproducible from the chain and the block alone. Stakes are `float` in the source; here they are rationals, which the
code only compares with `1000` and copies.
-/

namespace ComputeHorde

/-- The address a neuron serves on (`turbobt` axon info); the code reads its ip only. -/
structure AxonInfo where
  ip : String
  deriving DecidableEq, Repr

/-- A neuron as `turbobt` lists it, with the fields the code reads. -/
structure Neuron where
  uid : Nat
  hotkey : String
  stake : ℚ
  axonInfo : Option AxonInfo
  deriving DecidableEq, Repr

/-- The subnet state at a block. The code reads its `total_stake` entry only, with `[]` when the key is absent
(`subnet_state.get("total_stake", [])`); an entry of the list may be `None`. -/
structure SubnetState where
  totalStake : Option (List (Option ℚ))
  deriving DecidableEq, Repr

/-- A block timestamp (`datetime.datetime`), as microseconds since the epoch. -/
structure Timestamp where
  utcMicros : Int
  deriving DecidableEq, Repr

/-- `ValidatorModel`: a validator with the stake the subnet state gives its uid. -/
structure ValidatorModel where
  uid : Nat
  hotkey : String
  effectiveStake : ℚ
  deriving DecidableEq, Repr

/-- `MetagraphData` as `_build_metagraph_data` constructs it. -/
structure MetagraphData where
  block : Int
  blockHash : String
  totalStake : List (Option ℚ)
  uids : List Nat
  hotkeys : List String
  servingHotkeys : List String
  deriving DecidableEq, Repr

/-- The datum kinds of the prefetch cache: the task types of `TaskType` but the sentinel `THE_END`. -/
inductive Kind where
  | neurons
  | blockTimestamp
  | blockHash
  | subnetState
  | validators
  deriving DecidableEq, Repr

/-- `TaskType`: a datum kind to fetch, or `THE_END`, which stops the worker that takes it. -/
inductive TaskType where
  | datum (k : Kind)
  | theEnd
  deriving DecidableEq, Repr

/-- The type of the values of a datum kind: what `BaseCache.get_<kind>` returns when it hits. -/
def Kind.Val : Kind → Type
  | .neurons => List Neuron
  | .blockTimestamp => Timestamp
  | .blockHash => String
  | .subnetState => SubnetState
  | .validators => List ValidatorModel

instance Kind.decEqVal : (k : Kind) → DecidableEq k.Val
  | .neurons => inferInstanceAs (DecidableEq (List Neuron))
  | .blockTimestamp => inferInstanceAs (DecidableEq Timestamp)
  | .blockHash => inferInstanceAs (DecidableEq String)
  | .subnetState => inferInstanceAs (DecidableEq SubnetState)
  | .validators => inferInstanceAs (DecidableEq (List ValidatorModel))

/-- The minimum stake of a validator (`n.stake >= 1000` in `list_validators`). -/
def validatorMinStake : ℚ := 1000

/-- The stake `list_validators` gives a validator: `total_stake[uid]` when the index is in range and the entry is
not `None`, else `0.0`. -/
def effectiveStakeOf (totalStake : List (Option ℚ)) (uid : Nat) : ℚ :=
  match totalStake.get? uid with
  | some (some s) => s
  | _ => 0

/-- The body of `SuperTensor.list_validators` after its two reads: the neurons of stake at least 1000, with their
effective stake. -/
def validatorsOf (neurons : List Neuron) (subnetState : SubnetState) : List ValidatorModel :=
  (neurons.filter fun n => validatorMinStake ≤ n.stake).map fun n =>
    { uid := n.uid, hotkey := n.hotkey, effectiveStake := effectiveStakeOf (subnetState.totalStake.getD []) n.uid }

/-- A neuron serves when it has an axon whose ip is not `0.0.0.0`. -/
def Neuron.serving (n : Neuron) : Bool :=
  n.axonInfo.any fun a => a.ip ≠ "0.0.0.0"

/-- The body of `SuperTensor._build_metagraph_data` after its three reads. -/
def metagraphOf (block : Int) (blockHash : String) (neurons : List Neuron) (subnetState : SubnetState) :
    MetagraphData where
  block := block
  blockHash := blockHash
  totalStake := subnetState.totalStake.getD []
  uids := neurons.map (·.uid)
  hotkeys := neurons.map (·.hotkey)
  servingHotkeys := (neurons.filter Neuron.serving).map (·.hotkey)

/-- A chain: one fixed answer per datum kind the chain serves and per block (spec I4). -/
structure Chain where
  neurons : Int → List Neuron
  blockTimestamp : Int → Timestamp
  blockHash : Int → String
  subnetState : Int → SubnetState

/-- The answer the chain determines for a datum kind at a block; for validators, the list `list_validators` derives
from the neurons and the subnet state of the block. -/
def Chain.answer (c : Chain) : (k : Kind) → Int → k.Val
  | .neurons, b => c.neurons b
  | .blockTimestamp, b => c.blockTimestamp b
  | .blockHash, b => c.blockHash b
  | .subnetState, b => c.subnetState b
  | .validators, b => validatorsOf (c.neurons b) (c.subnetState b)

/-- The metagraph the chain determines at a block. -/
def Chain.metagraph (c : Chain) (b : Int) : MetagraphData :=
  metagraphOf b (c.blockHash b) (c.neurons b) (c.subnetState b)

/-- Every validator `list_validators` returns has stake at least 1000 and is one of the neurons it read. -/
theorem mem_validatorsOf {neurons : List Neuron} {s : SubnetState} {v : ValidatorModel}
    (h : v ∈ validatorsOf neurons s) :
    ∃ n ∈ neurons, validatorMinStake ≤ n.stake ∧ v.uid = n.uid ∧ v.hotkey = n.hotkey := by
  simp only [validatorsOf, List.mem_map, List.mem_filter, decide_eq_true_eq] at h
  obtain ⟨n, ⟨hn, hs⟩, rfl⟩ := h
  exact ⟨n, hn, hs, rfl, rfl⟩

end ComputeHorde
