import Mathlib.Data.List.Nodup
import Mathlib.Data.Int.Defs
import Mathlib.Tactic.Ring

/-!
# Python's `range` over the integers, and `str` of a natural number

`range(start, stop)` as the list `start, start + 1, ..., stop - 1`, with the facts the page walks of the receipt
transfer and the block walk of the prefetch producer use: membership, length, splitting at a point, and order.

`str(n)` of a natural number is Lean's `toString`: its decimal digits, which read back give `n`
(`digitsValue_toString`). The archive of `zipped_directory` names files by it.
-/

namespace ComputeHorde

/-- Python's `range(start, stop)` over the integers: `start, start + 1, ..., stop - 1`, empty when `stop ≤ start`. -/
def pyRange (start stop : Int) : List Int :=
  (List.range (stop - start).toNat).map fun i : Nat => start + i

/-- The range holds the integers from `start` up to and not including `stop`. -/
theorem mem_pyRange {a b x : Int} : x ∈ pyRange a b ↔ a ≤ x ∧ x < b := by
  simp only [pyRange, List.mem_map, List.mem_range]
  constructor
  · rintro ⟨i, hi, rfl⟩
    omega
  · rintro ⟨h1, h2⟩
    exact ⟨(x - a).toNat, by omega, by omega⟩

theorem length_pyRange (a b : Int) : (pyRange a b).length = (b - a).toNat := by
  simp [pyRange]

theorem pyRange_eq_nil {a b : Int} (h : b ≤ a) : pyRange a b = [] := by
  simp [pyRange, Int.toNat_eq_zero.2 (by omega : b - a ≤ 0)]

theorem pyRange_cons {a b : Int} (h : a < b) : pyRange a b = a :: pyRange (a + 1) b := by
  obtain ⟨n, hn⟩ : ∃ n : Nat, (b - a).toNat = n + 1 := ⟨(b - a).toNat - 1, by omega⟩
  have hn' : (b - (a + 1)).toNat = n := by omega
  simp only [pyRange, hn, hn', List.range_succ_eq_map, List.map_cons, List.map_map]
  refine congrArg₂ _ (by omega) (List.map_congr_left fun i _ => ?_)
  simp only [Function.comp, Nat.succ_eq_add_one]
  omega

/-- A range splits at any point between its ends. -/
theorem pyRange_append {a b c : Int} (hab : a ≤ b) (hbc : b ≤ c) : pyRange a b ++ pyRange b c = pyRange a c := by
  have hc : (c - a).toNat = (b - a).toNat + (c - b).toNat := by omega
  simp only [pyRange, hc, List.range_add, List.map_append, List.map_map]
  exact congrArg _ (List.map_congr_left fun i _ => by simp only [Function.comp]; omega)

theorem pairwise_pyRange (a b : Int) : (pyRange a b).Pairwise (· < ·) := by
  simp only [pyRange, List.pairwise_map]
  exact (List.pairwise_lt_range _).imp fun h => by omega

theorem nodup_pyRange (a b : Int) : (pyRange a b).Nodup :=
  (pairwise_pyRange a b).imp (ne_of_lt)

/-- A range one longer at the top ends with its old `stop`. -/
theorem pyRange_succ {a b : Int} (h : a ≤ b) : pyRange a (b + 1) = pyRange a b ++ [b] := by
  rw [← pyRange_append h (by omega), pyRange_cons (show b < b + 1 by omega), pyRange_eq_nil (le_refl _)]

/-! ## `str` of a natural number -/

namespace StrAux

/-- Decimal digits, most significant first, read back as a number. -/
def digitsValue (l : List Char) : Nat := l.foldl (fun n c => 10 * n + (c.toNat - 48)) 0

theorem foldl_digits (a : Nat) (r : List Char) :
    r.foldl (fun n c => 10 * n + (c.toNat - 48)) a = a * 10 ^ r.length + digitsValue r := by
  induction r generalizing a with
  | nil => simp [digitsValue]
  | cons c r ih =>
    have hc : digitsValue (c :: r) = (10 * 0 + (c.toNat - 48)) * 10 ^ r.length + digitsValue r := ih _
    rw [List.foldl_cons, ih, hc, List.length_cons, pow_succ]
    ring

theorem digitChar_spec : ∀ m < 10, (Nat.digitChar m).toNat - 48 = m ∧ (Nat.digitChar m).isDigit = true := by decide

/-- One digit of `toDigitsCore`: the last digit goes in front of the accumulator, and the rest of `n` follows. -/
theorem toDigitsCore_succ (f n : Nat) (acc : List Char) :
    Nat.toDigitsCore 10 (f + 1) n acc =
      if n / 10 = 0 then Nat.digitChar (n % 10) :: acc
      else Nat.toDigitsCore 10 f (n / 10) (Nat.digitChar (n % 10) :: acc) :=
  rfl

/-- `toDigitsCore` with enough fuel puts the digits of `n` before the accumulator, all of them digits. -/
theorem toDigitsCore_spec (f n : Nat) (acc : List Char) (h : n < f) :
    digitsValue (Nat.toDigitsCore 10 f n acc) = n * 10 ^ acc.length + digitsValue acc ∧
      ((∀ c ∈ acc, c.isDigit = true) → ∀ c ∈ Nat.toDigitsCore 10 f n acc, c.isDigit = true) := by
  induction f generalizing n acc with
  | zero => omega
  | succ f ih =>
    obtain ⟨hv, hd⟩ := digitChar_spec (n % 10) (Nat.mod_lt _ (by omega))
    have hcons : digitsValue (Nat.digitChar (n % 10) :: acc) = n % 10 * 10 ^ acc.length + digitsValue acc := by
      rw [digitsValue, List.foldl_cons, foldl_digits, hv, Nat.mul_zero, Nat.zero_add]
    by_cases hn : n / 10 = 0
    · simp only [toDigitsCore_succ, hn, if_true, hcons]
      refine ⟨by rw [Nat.mod_eq_of_lt (by omega)], fun ha c hc => ?_⟩
      rcases List.mem_cons.1 hc with rfl | hc
      · exact hd
      · exact ha c hc
    · simp only [toDigitsCore_succ, hn, if_false]
      obtain ⟨ih1, ih2⟩ := ih (n / 10) (Nat.digitChar (n % 10) :: acc) (by omega)
      refine ⟨by rw [ih1, hcons, List.length_cons, pow_succ]; nth_rewrite 3 [← Nat.div_add_mod n 10]; ring,
        fun ha => ih2 fun c hc => ?_⟩
      rcases List.mem_cons.1 hc with rfl | hc
      · exact hd
      · exact ha c hc

theorem digitsValue_toString (n : Nat) : digitsValue (toString n).toList = n := by
  simpa [digitsValue] using (toDigitsCore_spec (n + 1) n [] (by omega)).1

theorem isDigit_toString (n : Nat) : ∀ c ∈ (toString n).toList, c.isDigit = true :=
  (toDigitsCore_spec (n + 1) n [] (by omega)).2 (by simp)

end StrAux

end ComputeHorde
