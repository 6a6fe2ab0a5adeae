import Mathlib.Data.List.Count
import Mathlib.Data.List.Infix

/-!
# The upload semaphore across concurrent uploader coroutines

All uploaders share the class attribute `OutputUploader._semaphore = asyncio.Semaphore(MAX_CONCURRENT_UPLOADS)`. An
`EventLoop` holds the semaphore's free permits and the coroutines, each as the list of what it does next at its await
points; any coroutine that can move may take its next step, so a run is any interleaving. `uploading` counts the
`upload_post` / `upload_put` calls in progress.

The two zip uploaders make their call inside `async with self._semaphore`, and a loop of them never has more than
`MAX_CONCURRENT_UPLOADS` calls in progress (`zip_uploads_bounded`). `MultiUploadOutputUploader.upload` enters the
semaphore only to append each upload coroutine to `tasks`, and leaves it before `asyncio.gather` runs them:
`multiUpload_exceeds_semaphore` has one `MultiUpload` with four single-file uploads reach four calls at once.
-/

namespace ComputeHorde

/-- `MAX_CONCURRENT_UPLOADS`. -/
def maxConcurrentUploads : Nat := 3

/-- A step of a coroutine at an await point: entering `async with self._semaphore` (it waits while no permit is free),
leaving it, and the start and the return of an `upload_post` or `upload_put` call. -/
inductive Step where
  | acquire
  | release
  | begin
  | finish
  deriving DecidableEq, Repr

/-- What an uploader coroutine does next: a step, or `asyncio.gather(*tasks)`, which starts the coroutines it
collected. -/
inductive Op where
  | step (s : Step)
  | gather (tasks : List (List Step))
  deriving DecidableEq, Repr

/-- The uploaders. A `MultiUpload` is given by its number of single-file uploads and whether it has a system output;
its upload types and paths are valid (an invalid one raises before `gather`, and uploads less). -/
inductive Uploader where
  | zipAndHttpPost
  | zipAndHttpPut
  | multiUpload (singleFiles : Nat) (systemOutput : Bool)
  deriving DecidableEq, Repr

/-- `_single_post_upload_task`, `_single_put_upload_task`, `_output_post_upload_task`, `_output_put_upload_task`:
one upload call. -/
def uploadTask : List Step := [.begin, .finish]

/-- `upload` of each uploader. The zip uploaders call `upload_post` / `upload_put` inside `async with
self._semaphore`; a `MultiUpload` enters and leaves it once per coroutine it appends to `tasks`, then gathers them. -/
def Uploader.upload : Uploader → List Op
  | .zipAndHttpPost | .zipAndHttpPut => [.step .acquire, .step .begin, .step .finish, .step .release]
  | .multiUpload n systemOutput =>
    let k := n + if systemOutput then 1 else 0
    (List.replicate k [.step .acquire, .step .release]).flatten ++ [.gather (List.replicate k uploadTask)]

/-- The event loop: the free permits of the semaphore, the coroutines, and the upload calls in progress. -/
structure EventLoop where
  free : Nat
  coroutines : List (List Op)
  uploading : Nat
  deriving DecidableEq, Repr

namespace EventLoop

/-- The uploaders' `upload` coroutines, started together. -/
def init (us : List Uploader) : EventLoop := ⟨maxConcurrentUploads, us.map Uploader.upload, 0⟩

/-- Coroutine `i` takes its next step, if it can. -/
def step (s : EventLoop) (i : Nat) : EventLoop :=
  match s.coroutines[i]? with
  | some (.step .acquire :: rest) =>
    if 0 < s.free then { s with free := s.free - 1, coroutines := s.coroutines.set i rest } else s
  | some (.step .release :: rest) => { s with free := s.free + 1, coroutines := s.coroutines.set i rest }
  | some (.step .begin :: rest) => { s with uploading := s.uploading + 1, coroutines := s.coroutines.set i rest }
  | some (.step .finish :: rest) => { s with uploading := s.uploading - 1, coroutines := s.coroutines.set i rest }
  | some (.gather tasks :: rest) => { s with coroutines := s.coroutines.set i rest ++ tasks.map (·.map .step) }
  | _ => s

/-- A run: the coroutines the schedule names take their steps in its order. -/
def run (us : List Uploader) (schedule : List Nat) : EventLoop := schedule.foldl step (init us)

end EventLoop

/-- One `MultiUpload` with four single-file uploads: it appends its four coroutines, entering and leaving the
semaphore each time, gathers them, and each starts its upload call: four calls are in progress at once. -/
theorem multiUpload_exceeds_semaphore :
    (EventLoop.run [.multiUpload 4 false] [0, 0, 0, 0, 0, 0, 0, 0, 0, 1, 2, 3, 4]).uploading = 4 ∧
    maxConcurrentUploads < 4 := by
  decide

/-- The program of a zip uploader. -/
def zipOps : List Op := [.step .acquire, .step .begin, .step .finish, .step .release]

/-- A zip uploader coroutine holds a permit between its `acquire` and its `release`. -/
def holdsPermit (t : List Op) : Bool := 1 ≤ t.length && t.length ≤ 3

/-- A zip uploader coroutine is in its upload call between `begin` and `finish`. -/
def inUpload (t : List Op) : Bool := t.length = 2

/-- The invariant of a loop of zip uploaders: every coroutine is at some point of `zipOps`, the free permits and the
permits held add up to `MAX_CONCURRENT_UPLOADS`, and `uploading` counts the coroutines in their upload call. -/
structure ZipLoopInv (s : EventLoop) : Prop where
  suffix : ∀ t ∈ s.coroutines, t <:+ zipOps
  permits : s.free + s.coroutines.countP holdsPermit = maxConcurrentUploads
  uploading : s.uploading = s.coroutines.countP inUpload

namespace SemaphoreAux

theorem suffix_zipOps {t : List Op} (h : t <:+ zipOps) :
    t = [.step .acquire, .step .begin, .step .finish, .step .release] ∨ t = [.step .begin, .step .finish, .step .release] ∨
      t = [.step .finish, .step .release] ∨ t = [.step .release] ∨ t = [] := by
  obtain ⟨j, hj, rfl⟩ : ∃ j ≤ 4, t = zipOps.drop j :=
    ⟨zipOps.length - t.length, by simp [zipOps], List.suffix_iff_eq_drop.1 h⟩
  rcases j with _ | _ | _ | _ | _ | j
  all_goals simp [zipOps]

/-- Replacing one element changes a count by what the old and the new element add. -/
theorem countP_set_add {l : List (List Op)} {i : Nat} {t : List Op} (hi : l[i]? = some t) (p : List Op → Bool)
    (a : List Op) : l.countP p + (if p a then 1 else 0) = (l.set i a).countP p + (if p t then 1 else 0) := by
  obtain ⟨hlt, hget⟩ := List.getElem?_eq_some_iff.1 hi
  rw [List.countP_set _ _ _ _ hlt, hget]
  have : (if p t then 1 else 0) ≤ l.countP p := by
    split_ifs with hp
    · exact List.countP_pos_iff.2 ⟨t, List.getElem?_mem hi, hp⟩
    · exact Nat.zero_le _
  omega

/-- A step that moves one coroutine along `zipOps`, with the free permits and the upload count changing by what
its holding a permit and being in its call change, keeps the invariant. -/
theorem zipLoopInv_set {s : EventLoop} (h : ZipLoopInv s) {i : Nat} {t : List Op} (hi : s.coroutines[i]? = some t)
    {t' : List Op} (ht' : t' <:+ zipOps) {free uploading : Nat}
    (hf : free + (if holdsPermit t' then 1 else 0) = s.free + (if holdsPermit t then 1 else 0))
    (hu : uploading + (if inUpload t then 1 else 0) = s.uploading + (if inUpload t' then 1 else 0)) :
    ZipLoopInv ⟨free, s.coroutines.set i t', uploading⟩ := by
  have h1 := countP_set_add hi holdsPermit t'
  have h2 := countP_set_add hi inUpload t'
  have h3 := h.permits
  have h4 := h.uploading
  refine ⟨fun u hu => (List.mem_or_eq_of_mem_set hu).elim (h.suffix u) fun e => e ▸ ht', ?_, ?_⟩ <;> dsimp only <;> omega

/-- Every step keeps the invariant of a loop of zip uploaders. -/
theorem zipLoopInv_step {s : EventLoop} (h : ZipLoopInv s) (i : Nat) : ZipLoopInv (s.step i) := by
  cases hi : s.coroutines[i]? with
  | none => simpa [EventLoop.step, hi] using h
  | some t =>
    rcases suffix_zipOps (h.suffix t (List.getElem?_mem hi)) with rfl | rfl | rfl | rfl | rfl
    · simp only [EventLoop.step, hi]
      split_ifs with hfree
      · exact zipLoopInv_set h hi (by decide) (by simp [holdsPermit]; omega) (by simp [inUpload])
      · exact h
    · simp only [EventLoop.step, hi]
      exact zipLoopInv_set h hi (by decide) (by simp [holdsPermit]) (by simp [inUpload])
    · simp only [EventLoop.step, hi]
      have : 0 < s.uploading := by
        rw [h.uploading]
        exact List.countP_pos_iff.2 ⟨_, List.getElem?_mem hi, rfl⟩
      exact zipLoopInv_set h hi (by decide) (by simp [holdsPermit]) (by simp [inUpload]; omega)
    · simp only [EventLoop.step, hi]
      exact zipLoopInv_set h hi (by decide) (by simp [holdsPermit]) (by simp [inUpload])
    · simpa [EventLoop.step, hi] using h

theorem zipLoopInv_foldl (schedule : List Nat) :
    ∀ s : EventLoop, ZipLoopInv s → ZipLoopInv (schedule.foldl EventLoop.step s) := by
  induction schedule with
  | nil => exact fun _ h => h
  | cons i is ih => exact fun s h => ih _ (zipLoopInv_step h i)

end SemaphoreAux

open SemaphoreAux

/-- However the coroutines of zip uploaders interleave, at most `MAX_CONCURRENT_UPLOADS` upload calls are in
progress. -/
theorem zip_uploads_bounded (us : List Uploader) (hz : ∀ u ∈ us, u = .zipAndHttpPost ∨ u = .zipAndHttpPut)
    (schedule : List Nat) : (EventLoop.run us schedule).uploading ≤ maxConcurrentUploads := by
  have hstart : ∀ t ∈ (EventLoop.init us).coroutines, t = zipOps := fun t ht => by
    obtain ⟨u, hu, rfl⟩ := List.mem_map.1 ht
    rcases hz u hu with rfl | rfl <;> rfl
  have hinit : ZipLoopInv (EventLoop.init us) := by
    refine ⟨fun t ht => hstart t ht ▸ List.suffix_refl _, ?_, ?_⟩
    · rw [List.countP_eq_zero.2 fun t ht => by rw [hstart t ht]; decide]
      rfl
    · rw [List.countP_eq_zero.2 fun t ht => by rw [hstart t ht]; decide]
      rfl
  have h : ZipLoopInv (EventLoop.run us schedule) := zipLoopInv_foldl schedule _ hinit
  calc (EventLoop.run us schedule).uploading
      = (EventLoop.run us schedule).coroutines.countP inUpload := h.uploading
    _ ≤ (EventLoop.run us schedule).coroutines.countP holdsPermit :=
      List.countP_mono_left fun t _ ht => by simp_all [inUpload, holdsPermit]
    _ ≤ maxConcurrentUploads := by have := h.permits; omega

/-- Four zip uploaders, each stepped in turn: three enter the semaphore and start their calls, and the fourth waits at
`acquire`, so the bound is reached and not passed. -/
theorem zip_uploads_bounded_four :
    (∀ u ∈ [Uploader.zipAndHttpPost, .zipAndHttpPut, .zipAndHttpPost, .zipAndHttpPut],
      u = .zipAndHttpPost ∨ u = .zipAndHttpPut) ∧
    (EventLoop.run [.zipAndHttpPost, .zipAndHttpPut, .zipAndHttpPost, .zipAndHttpPut] [0, 1, 2, 3, 0, 1, 2, 3]).uploading ≤
      maxConcurrentUploads ∧
    (EventLoop.run [.zipAndHttpPost, .zipAndHttpPut, .zipAndHttpPost, .zipAndHttpPut] [0, 1, 2, 3, 0, 1, 2, 3]).uploading =
      maxConcurrentUploads :=
  ⟨by decide, zip_uploads_bounded _ (by decide) _, by decide⟩

end ComputeHorde
