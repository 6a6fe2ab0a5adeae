import ComputeHorde.Builtins

/-!
# Which receipt pages the transfer command visits

`transfer_receipts` pulls receipt pages in two modes. `run_once` walks `[cutoff_page, current_page]` newest first.
`run_in_loop` first sweeps the `N_ACTIVE_PAGES` pages ending at `current_page` (the hot pages), then runs a catch-up over
the cold pages below them while `keep_up` repeats the hot sweep at every iteration, at the current page it reads then.

`runInLoop_pages` says the daemon's first sweep followed by its catch-up list walks down without repeats, holds every
page `run_once` would visit, and is that list exactly when the cold range is not empty; when the cutoff lies inside the
hot window the catch-up list is empty and the sweep alone reaches below the cutoff.
-/

namespace ComputeHorde

/-- The pages `run_once` hands to `catch_up`: `reversed(range(catchup_cutoff_page, current_page + 1))`. -/
def runOncePages (cutoffPage currentPage : Int) : List Int :=
  (pyRange cutoffPage (currentPage + 1)).reverse

/-- The hot pages: `reversed(range(current_page - N_ACTIVE_PAGES + 1, current_page + 1))`, the list `run_in_loop`'s
first `catch_up` gets and the list every `keep_up` iteration builds from the current page it reads. -/
def activePages (nActivePages : Nat) (currentPage : Int) : List Int :=
  (pyRange (currentPage - nActivePages + 1) (currentPage + 1)).reverse

/-- The pages of `run_in_loop`'s background `catch_up`:
`reversed(range(catchup_cutoff_page, current_page - N_ACTIVE_PAGES + 1))`. -/
def catchUpPages (nActivePages : Nat) (cutoffPage currentPage : Int) : List Int :=
  (pyRange cutoffPage (currentPage - nActivePages + 1)).reverse

/-- The `n` pages ending at page `p`, newest first: `p, p - 1, ..., p - n + 1`. -/
def pagesEndingAt (p : Int) (n : Nat) : List Int :=
  (List.range n).map fun i : Nat => p - i

namespace PagesAux

/-- Read from its top, the range ending at `p` is the pages ending at `p`. -/
theorem reverse_pyRange_eq (p : Int) (n : Nat) : (pyRange (p - n + 1) (p + 1)).reverse = pagesEndingAt p n := by
  induction n with
  | zero => simp [pyRange_eq_nil, pagesEndingAt]
  | succ n ih =>
    rw [pyRange_cons (by omega), List.reverse_cons, show p - ↑(n + 1) + 1 + 1 = p - n + 1 by omega, ih]
    simp only [pagesEndingAt, List.range_succ, List.map_append, List.map_singleton]
    rw [show p - ↑(n + 1) + 1 = p - n by omega]

/-- A list read downwards is strictly decreasing. -/
theorem pairwise_gt_reverse (a b : Int) : (pyRange a b).reverse.Pairwise (· > ·) :=
  List.pairwise_reverse.2 ((pairwise_pyRange a b).imp id)

end PagesAux

open PagesAux

/-- Every `keep_up` iteration transfers exactly the `N_ACTIVE_PAGES` pages ending at the current page it reads, newest
first. -/
theorem activePages_eq (nActivePages : Nat) (currentPage : Int) :
    activePages nActivePages currentPage = pagesEndingAt currentPage nActivePages :=
  reverse_pyRange_eq currentPage nActivePages

/-- The daemon's first sweep followed by its catch-up list walks down without repeats and holds every page `run_once`
visits exactly once; it is `run_once`'s list exactly when the cutoff is at most `current_page - N + 1`, and otherwise
the catch-up list is empty and the sweep is the `N` pages ending at the current page. Every `keep_up` iteration
transfers the `N` pages ending at the page it reads. -/
theorem runInLoop_pages (nActivePages : Nat) (cutoffPage currentPage : Int) (hN : 1 ≤ nActivePages)
    (hc : cutoffPage ≤ currentPage) :
    (activePages nActivePages currentPage ++ catchUpPages nActivePages cutoffPage currentPage).Pairwise (· > ·) ∧
    (∀ p ∈ runOncePages cutoffPage currentPage,
      (activePages nActivePages currentPage ++ catchUpPages nActivePages cutoffPage currentPage).count p = 1) ∧
    (activePages nActivePages currentPage ++ catchUpPages nActivePages cutoffPage currentPage =
        runOncePages cutoffPage currentPage ↔ cutoffPage ≤ currentPage - nActivePages + 1) ∧
    (currentPage - nActivePages + 1 < cutoffPage →
      catchUpPages nActivePages cutoffPage currentPage = [] ∧
        activePages nActivePages currentPage = pagesEndingAt currentPage nActivePages) ∧
    ∀ page, activePages nActivePages page = pagesEndingAt page nActivePages := by
  set m := currentPage - nActivePages + 1
  have hsorted : (activePages nActivePages currentPage ++ catchUpPages nActivePages cutoffPage currentPage).Pairwise
      (· > ·) := by
    refine List.pairwise_append.2 ⟨pairwise_gt_reverse _ _, pairwise_gt_reverse _ _, fun x hx y hy => ?_⟩
    simp only [activePages, catchUpPages, List.mem_reverse, mem_pyRange] at hx hy
    omega
  have hmem : ∀ p ∈ runOncePages cutoffPage currentPage,
      p ∈ activePages nActivePages currentPage ++ catchUpPages nActivePages cutoffPage currentPage := by
    intro p hp
    simp only [runOncePages, activePages, catchUpPages, List.mem_append, List.mem_reverse, mem_pyRange] at hp ⊢
    omega
  refine ⟨hsorted, fun p hp => List.count_eq_one_of_mem (hsorted.imp ne_of_gt) (hmem p hp), ⟨fun heq => ?_, fun hle => ?_⟩,
    fun hlt => ⟨by simp [catchUpPages, pyRange_eq_nil hlt.le], activePages_eq _ _⟩, activePages_eq nActivePages⟩
  · by_contra hlt
    have hl := congrArg List.length heq
    simp only [List.length_append, activePages, catchUpPages, runOncePages, List.length_reverse, length_pyRange,
      pyRange_eq_nil (show m ≤ cutoffPage by omega)] at hl
    omega
  · simp only [activePages, catchUpPages, runOncePages, ← List.reverse_append]
    rw [pyRange_append hle (by omega)]

/-- `N = 2`, cutoff page 3 and current page 10. -/
theorem runInLoop_pages_two : 1 ≤ 2 ∧ (3 : Int) ≤ 10 ∧
    ((activePages 2 10 ++ catchUpPages 2 3 10).Pairwise (· > ·) ∧
    (∀ p ∈ runOncePages 3 10, (activePages 2 10 ++ catchUpPages 2 3 10).count p = 1) ∧
    (activePages 2 10 ++ catchUpPages 2 3 10 = runOncePages 3 10 ↔ (3 : Int) ≤ 10 - (2 : Nat) + 1) ∧
    ((10 : Int) - (2 : Nat) + 1 < 3 → catchUpPages 2 3 10 = [] ∧ activePages 2 10 = pagesEndingAt 10 2) ∧
    ∀ page, activePages 2 page = pagesEndingAt page 2) :=
  ⟨by decide, by decide, runInLoop_pages 2 3 10 (by decide) (by decide)⟩

end ComputeHorde
