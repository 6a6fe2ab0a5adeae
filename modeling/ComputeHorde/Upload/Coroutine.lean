import ComputeHorde.Upload.Multi
import ComputeHorde.Upload.Semaphore

/-!
# A rejected `MultiUpload` starts no upload

`MultiUploadOutputUploader.upload` checks the uploads one by one; for each it accepts it only creates the coroutine of
its upload call inside `async with self._semaphore`, and nothing runs one before `asyncio.gather(*tasks)`.
`multiUploadSteps` is `upload` as a coroutine of the event loop of `Semaphore`. `multiUploadTasks_error_iff`: `upload`
raises exactly when an upload names a path that does not exist or has a type that is not a single-file one, or a
system output is given that is not a zip upload (`no_system_output_uploads`: none given is no error).
`rejected_multiUpload_starts_nothing`: a rejected `MultiUpload` only enters and leaves the semaphore, so under any
schedule no upload call is in progress and no coroutine starts; an accepted one runs as `Uploader.multiUpload`.
-/

namespace ComputeHorde

/-! ## `upload` as a coroutine -/

/-- The awaits of the `for upload in self.upload_output.uploads` loop up to where it ends or raises: one
`async with self._semaphore` around the `tasks.append` of each upload it accepts. -/
def uploadLoopSteps (fs : FileSystem) (directory : PurePath) : List SingleUpload → List Op
  | [] => []
  | u :: us =>
    if !fs.exists? (directory.div u.relativePath) then []
    else match u.outputUploadType with
      | .singleFilePost | .singleFilePut => .step .acquire :: .step .release :: uploadLoopSteps fs directory us
      | _ => []

/-- `MultiUploadOutputUploader.upload` as a coroutine of the event loop: the awaits of the loop; then, unless it raised,
one more `async with self._semaphore` for a system output and `asyncio.gather(*tasks)` over one upload call per
coroutine in `tasks`. Where it raises it stops, and the coroutines in `tasks` are never awaited. -/
def multiUploadSteps (fs : FileSystem) (directory : PurePath) (uploads : List SingleUpload)
    (systemOutput : Option OutputUploadType) : List Op :=
  uploadLoopSteps fs directory uploads ++
    match multiUploadTasks fs directory uploads systemOutput with
    | .error _ => []
    | .ok tasks =>
      (if systemOutput.isSome then [.step .acquire, .step .release] else []) ++ [.gather (tasks.map fun _ => uploadTask)]

/-- A coroutine that only enters and leaves the semaphore: it starts no upload call and gathers nothing. -/
def OnlySemaphore (t : List Op) : Prop := ∀ op ∈ t, op = .step .acquire ∨ op = .step .release

namespace CoroutineAux

theorem onlySemaphore_uploadLoopSteps (fs : FileSystem) (directory : PurePath) :
    ∀ us : List SingleUpload, OnlySemaphore (uploadLoopSteps fs directory us)
  | [] => nofun
  | u :: us => by
    have hpair : OnlySemaphore (.step .acquire :: .step .release :: uploadLoopSteps fs directory us) := by
      intro op hop
      rcases List.mem_cons.1 hop with rfl | hop
      · exact .inl rfl
      rcases List.mem_cons.1 hop with rfl | hop
      · exact .inr rfl
      exact onlySemaphore_uploadLoopSteps fs directory us op hop
    simp only [uploadLoopSteps]
    split_ifs
    · exact nofun
    · split
      · exact hpair
      · exact hpair
      · exact nofun

/-- The loop runs to its end exactly when it raises on no upload, and then it enters and leaves the semaphore once per
upload. -/
theorem uploadLoopSteps_of_ok {fs : FileSystem} {directory : PurePath} :
    ∀ {us : List SingleUpload} {r : List UploadTask × List String}, collectUploads fs directory us = .ok r →
      uploadLoopSteps fs directory us = (List.replicate us.length [.step .acquire, .step .release]).flatten
  | [], _, _ => rfl
  | u :: us, r, h => by
    simp only [collectUploads] at h
    split_ifs at h with hex
    cases hr : collectUploads fs directory us with
    | error e =>
      rw [hr] at h
      split at h <;> cases h
    | ok r' =>
      rw [hr] at h
      have ih := uploadLoopSteps_of_ok hr
      split at h
      next hty => simp [uploadLoopSteps, hex, hty, ih, List.replicate_succ]
      next hty => simp [uploadLoopSteps, hex, hty, ih, List.replicate_succ]
      next => cases h

/-- A bind whose continuation cannot fail fails exactly when its first computation does. -/
theorem bind_error_iff {ε α β : Type} (x : Except ε α) {g : α → Except ε β} (hg : ∀ a, ∃ b, g a = .ok b) :
    (∃ e, x >>= g = .error e) ↔ ∃ e, x = .error e := by
  cases x with
  | error e => exact ⟨fun _ => ⟨e, rfl⟩, fun _ => ⟨e, rfl⟩⟩
  | ok a =>
    obtain ⟨b, hb⟩ := hg a
    exact ⟨fun ⟨e, he⟩ => (nomatch he.symm.trans hb), fun ⟨_, he⟩ => (nomatch he)⟩

/-- Every upload the loop raises on: a path that does not exist, or a type that is not a single-file one. -/
theorem collectUploads_error_iff {fs : FileSystem} {directory : PurePath} :
    ∀ {us : List SingleUpload}, (∃ e, collectUploads fs directory us = .error e) ↔
      ∃ u ∈ us, fs.exists? (directory.div u.relativePath) = false ∨
        (u.outputUploadType ≠ .singleFilePost ∧ u.outputUploadType ≠ .singleFilePut)
  | [] => by simp [collectUploads]
  | u :: us => by
    rw [List.exists_mem_cons_iff]
    by_cases hex : fs.exists? (directory.div u.relativePath) = false
    · simp [collectUploads, hex]
    · rw [Bool.not_eq_false] at hex
      cases ht : u.outputUploadType with
      | singleFilePost | singleFilePut =>
        simp only [collectUploads, hex, ht, Bool.not_true, Bool.false_eq_true, Bool.true_eq_false, if_false, ne_eq,
          not_true_eq_false, false_and, and_false, or_self, false_or]
        exact (bind_error_iff _ fun _ => ⟨_, rfl⟩).trans collectUploads_error_iff
      | _ => simp [collectUploads, hex, ht]

end CoroutineAux

open CoroutineAux MultiAux

/-! ## When `upload` raises -/

/-- `upload` raises exactly when some upload names a path that does not exist or has a type that is not a single-file
one, or a system output is given that is not a zip upload. -/
theorem multiUploadTasks_error_iff (fs : FileSystem) (directory : PurePath) (uploads : List SingleUpload)
    (systemOutput : Option OutputUploadType) :
    (∃ e, multiUploadTasks fs directory uploads systemOutput = .error e) ↔
      (∃ u ∈ uploads, fs.exists? (directory.div u.relativePath) = false ∨
          (u.outputUploadType ≠ .singleFilePost ∧ u.outputUploadType ≠ .singleFilePut)) ∨
        ∃ t, systemOutput = some t ∧ t ≠ .zipAndHttpPost ∧ t ≠ .zipAndHttpPut := by
  rw [← collectUploads_error_iff]
  simp only [multiUploadTasks]
  cases hc : collectUploads fs directory uploads with
  | error e => simp [Except.bind, bind]
  | ok r =>
    cases systemOutput with
    | none => simp [Except.bind, bind, pure, Except.pure]
    | some t => cases t <;> simp [Except.bind, bind, pure, Except.pure]

/-- When `upload` raises, its coroutine only entered and left the semaphore. -/
theorem onlySemaphore_multiUploadSteps {fs : FileSystem} {directory : PurePath} {uploads : List SingleUpload}
    {systemOutput : Option OutputUploadType} {e : MultiUploadFailure}
    (h : multiUploadTasks fs directory uploads systemOutput = .error e) :
    OnlySemaphore (multiUploadSteps fs directory uploads systemOutput) := by
  rw [multiUploadSteps, h, List.append_nil]
  exact onlySemaphore_uploadLoopSteps fs directory uploads

/-- When `upload` does not raise, its coroutine is the program the semaphore model runs for a MultiUpload with as many
single-file uploads and the same system output. -/
theorem multiUploadSteps_of_ok {fs : FileSystem} {directory : PurePath} {uploads : List SingleUpload}
    {systemOutput : Option OutputUploadType} {tasks : List UploadTask}
    (h : multiUploadTasks fs directory uploads systemOutput = .ok tasks) :
    multiUploadSteps fs directory uploads systemOutput =
      (Uploader.multiUpload uploads.length systemOutput.isSome).upload := by
  have hc : ∃ r, collectUploads fs directory uploads = .ok r := by
    simp only [multiUploadTasks] at h
    cases hr : collectUploads fs directory uploads with
    | error e => rw [hr] at h; cases h
    | ok r => exact ⟨r, rfl⟩
  obtain ⟨r, hr⟩ := hc
  rw [multiUploadSteps, h]
  dsimp only
  rw [uploadLoopSteps_of_ok hr, List.map_const', multiUploadTasks_ok h]
  cases systemOutput <;>
    simp [Uploader.upload, List.replicate_succ', List.flatten_append]

/-! ## An accepted `MultiUpload` -/

/-- A MultiUpload whose paths all exist, whose uploads are all single-file ones and whose system output, if it has one,
is a zip upload is accepted; `upload` then enters and leaves the semaphore once per coroutine it appends to `tasks` and
gathers one upload call per coroutine, which is the `Uploader.multiUpload` program of `Semaphore`. -/
theorem accepted_multiUpload_gathers {fs : FileSystem} {directory : PurePath} {uploads : List SingleUpload}
    {systemOutput : Option OutputUploadType}
    (hu : ∀ u ∈ uploads, fs.exists? (directory.div u.relativePath) = true ∧
      (u.outputUploadType = .singleFilePost ∨ u.outputUploadType = .singleFilePut))
    (hs : ∀ t, systemOutput = some t → t = .zipAndHttpPost ∨ t = .zipAndHttpPut) :
    (∃ tasks, multiUploadTasks fs directory uploads systemOutput = .ok tasks) ∧
    multiUploadSteps fs directory uploads systemOutput =
      (Uploader.multiUpload uploads.length systemOutput.isSome).upload := by
  cases h : multiUploadTasks fs directory uploads systemOutput with
  | ok tasks => exact ⟨⟨tasks, rfl⟩, multiUploadSteps_of_ok h⟩
  | error e =>
    exfalso
    rcases (multiUploadTasks_error_iff fs directory uploads systemOutput).1 ⟨e, h⟩ with ⟨u, hmem, hbad⟩ | ⟨t, ht, hne⟩
    · obtain ⟨hex, hty⟩ := hu u hmem
      rcases hbad with hbad | ⟨h1, h2⟩
      · rw [hex] at hbad
        cases hbad
      · rcases hty with hty | hty
        · exact h1 hty
        · exact h2 hty
    · rcases hs t ht with rfl | rfl
      · exact hne.1 rfl
      · exact hne.2 rfl

theorem accepted_multiUpload_gathers_job :
    (∀ u ∈ [(⟨"a.txt", .singleFilePost⟩ : SingleUpload)], jobFs.exists? (jobOut.div u.relativePath) = true ∧
      (u.outputUploadType = .singleFilePost ∨ u.outputUploadType = .singleFilePut)) ∧
    (∀ t, some OutputUploadType.zipAndHttpPost = some t → t = .zipAndHttpPost ∨ t = .zipAndHttpPut) ∧
    (∃ tasks, multiUploadTasks jobFs jobOut [⟨"a.txt", .singleFilePost⟩] (some .zipAndHttpPost) = .ok tasks) ∧
    multiUploadSteps jobFs jobOut [⟨"a.txt", .singleFilePost⟩] (some .zipAndHttpPost) = (Uploader.multiUpload 1 true).upload :=
  have hu : ∀ u ∈ [(⟨"a.txt", .singleFilePost⟩ : SingleUpload)], jobFs.exists? (jobOut.div u.relativePath) = true ∧
      (u.outputUploadType = .singleFilePost ∨ u.outputUploadType = .singleFilePut) := by decide
  have hs : ∀ t, some OutputUploadType.zipAndHttpPost = some t → t = .zipAndHttpPost ∨ t = .zipAndHttpPut :=
    fun _ ht => .inl (Option.some_inj.1 ht).symm
  ⟨hu, hs, accepted_multiUpload_gathers hu hs⟩

/-! ## A rejected `MultiUpload` -/

section Loop

/-- Every coroutine of the loop only enters and leaves the semaphore. -/
def EventLoop.OnlySemaphore (s : EventLoop) : Prop := ∀ t ∈ s.coroutines, ComputeHorde.OnlySemaphore t

/-- A step of a loop whose coroutines only enter and leave the semaphore starts no upload call and no coroutine. -/
theorem EventLoop.OnlySemaphore.step {s : EventLoop} (h : s.OnlySemaphore) (i : Nat) :
    (s.step i).OnlySemaphore ∧ (s.step i).uploading = s.uploading ∧
      (s.step i).coroutines.length = s.coroutines.length := by
  have hset : ∀ {t rest : List Op}, s.coroutines[i]? = some t → rest <:+ t →
      ∀ u ∈ s.coroutines.set i rest, ComputeHorde.OnlySemaphore u := fun ht hrest u hu =>
    (List.mem_or_eq_of_mem_set hu).elim (h u) fun e op hop =>
      h _ (List.getElem?_mem ht) op (hrest.subset (e ▸ hop))
  cases hi : s.coroutines[i]? with
  | none =>
    rw [show s.step i = s by simp only [EventLoop.step, hi]]
    exact ⟨h, rfl, rfl⟩
  | some t =>
    rcases t with _ | ⟨op, rest⟩
    · rw [show s.step i = s by simp only [EventLoop.step, hi]]
      exact ⟨h, rfl, rfl⟩
    · have hrest : rest <:+ op :: rest := List.suffix_cons _ _
      rcases h _ (List.getElem?_mem hi) op (List.mem_cons_self _ _) with rfl | rfl
      · simp only [EventLoop.step, hi]
        split_ifs
        · exact ⟨hset hi hrest, rfl, List.length_set _ _ _⟩
        · exact ⟨h, rfl, rfl⟩
      · rw [show s.step i = { s with free := s.free + 1, coroutines := s.coroutines.set i rest } by
          simp only [EventLoop.step, hi]]
        exact ⟨hset hi hrest, rfl, List.length_set _ _ _⟩

/-- A run of such a loop, in any order of its steps, starts no upload call and no coroutine. -/
theorem EventLoop.OnlySemaphore.foldl (schedule : List Nat) :
    ∀ {s : EventLoop}, s.OnlySemaphore → (schedule.foldl EventLoop.step s).uploading = s.uploading ∧
      (schedule.foldl EventLoop.step s).coroutines.length = s.coroutines.length := by
  induction schedule with
  | nil => exact fun _ => ⟨rfl, rfl⟩
  | cons i is ih =>
    intro s h
    obtain ⟨h', hu, hl⟩ := h.step i
    obtain ⟨hu', hl'⟩ := ih h'
    exact ⟨hu'.trans hu, hl'.trans hl⟩

end Loop

/-- A MultiUpload without a system output whose one upload's file exists: `upload` does not raise, and once its steps
have run, its upload call is in progress. -/
theorem no_system_output_uploads :
    (none : Option OutputUploadType) ≠ some .zipAndHttpPost ∧ (none : Option OutputUploadType) ≠ some .zipAndHttpPut ∧
    multiUploadTasks jobFs jobOut [⟨"a.txt", .singleFilePost⟩] none =
      .ok [.singleFile (jobOut.div "a.txt") .singleFilePost] ∧
    ([0, 0, 0, 1].foldl EventLoop.step
      ⟨maxConcurrentUploads, [multiUploadSteps jobFs jobOut [⟨"a.txt", .singleFilePost⟩] none], 0⟩).uploading = 1 :=
  ⟨nofun, nofun, rfl, by decide⟩

/-- If some upload names a path that does not exist or has a type that is not a single-file one, or a system output is
given that is not a zip upload, `upload` raises `OutputUploadFailed`; and however its steps are scheduled, whatever
permits the semaphore has free, no upload call of it is ever in progress and no coroutine of it ever starts. -/
theorem rejected_multiUpload_starts_nothing {fs : FileSystem} {directory : PurePath} {uploads : List SingleUpload}
    {systemOutput : Option OutputUploadType}
    (h : (∃ u ∈ uploads, fs.exists? (directory.div u.relativePath) = false ∨
        (u.outputUploadType ≠ .singleFilePost ∧ u.outputUploadType ≠ .singleFilePut)) ∨
      ∃ t, systemOutput = some t ∧ t ≠ .zipAndHttpPost ∧ t ≠ .zipAndHttpPut)
    (free : Nat) (schedule : List Nat) :
    (∃ e, multiUploadTasks fs directory uploads systemOutput = .error e) ∧
    (schedule.foldl EventLoop.step ⟨free, [multiUploadSteps fs directory uploads systemOutput], 0⟩).uploading = 0 ∧
    (schedule.foldl EventLoop.step ⟨free, [multiUploadSteps fs directory uploads systemOutput], 0⟩).coroutines.length =
      1 := by
  obtain ⟨e, he⟩ := (multiUploadTasks_error_iff fs directory uploads systemOutput).2 h
  have hs : EventLoop.OnlySemaphore ⟨free, [multiUploadSteps fs directory uploads systemOutput], 0⟩ := by
    simpa [EventLoop.OnlySemaphore] using onlySemaphore_multiUploadSteps he
  exact ⟨⟨e, he⟩, EventLoop.OnlySemaphore.foldl schedule hs⟩

/-- An upload of `a.txt` followed by one of `nodir/../a.txt`, with a zip system output. The second reads as `a.txt`, but
`/job/out/nodir` is no directory, so the path does not exist: `upload` raises, and its coroutine, run to its end,
started nothing. -/
theorem missing_file_starts_nothing :
    ((∃ u ∈ [(⟨"a.txt", .singleFilePost⟩ : SingleUpload), ⟨"nodir/../a.txt", .singleFilePut⟩],
        jobFs.exists? (jobOut.div u.relativePath) = false ∨
          (u.outputUploadType ≠ .singleFilePost ∧ u.outputUploadType ≠ .singleFilePut)) ∨
      ∃ t, some OutputUploadType.zipAndHttpPost = some t ∧ t ≠ .zipAndHttpPost ∧ t ≠ .zipAndHttpPut) ∧
    (∃ e, multiUploadTasks jobFs jobOut [⟨"a.txt", .singleFilePost⟩, ⟨"nodir/../a.txt", .singleFilePut⟩]
      (some .zipAndHttpPost) = .error e) ∧
    ([0, 0, 0].foldl EventLoop.step ⟨maxConcurrentUploads, [multiUploadSteps jobFs jobOut
      [⟨"a.txt", .singleFilePost⟩, ⟨"nodir/../a.txt", .singleFilePut⟩] (some .zipAndHttpPost)], 0⟩).uploading = 0 ∧
    ([0, 0, 0].foldl EventLoop.step ⟨maxConcurrentUploads, [multiUploadSteps jobFs jobOut
      [⟨"a.txt", .singleFilePost⟩, ⟨"nodir/../a.txt", .singleFilePut⟩] (some .zipAndHttpPost)], 0⟩).coroutines.length =
      1 :=
  have h : (∃ u ∈ [(⟨"a.txt", .singleFilePost⟩ : SingleUpload), ⟨"nodir/../a.txt", .singleFilePut⟩],
      jobFs.exists? (jobOut.div u.relativePath) = false ∨
        (u.outputUploadType ≠ .singleFilePost ∧ u.outputUploadType ≠ .singleFilePut)) :=
    ⟨⟨"nodir/../a.txt", .singleFilePut⟩, List.mem_cons_of_mem _ (List.mem_singleton_self _), .inl rfl⟩
  ⟨.inl h, rejected_multiUpload_starts_nothing (.inl h) maxConcurrentUploads [0, 0, 0]⟩

end ComputeHorde
