import ComputeHorde.Upload.Path

/-!
# `MultiUploadOutputUploader.upload`: which files it reads, and what the system zip leaves out

Before `asyncio.gather`, `upload` walks the single-file uploads in order: it joins each `relative_path` to the output
directory, raises `OutputUploadFailed` when the path does not exist or the upload type is not a single-file one, and
otherwise collects a task and the `relative_path` string itself; then it adds the system output task, whose
`zipped_directory` excludes those strings (`multiUploadTasks`).

The exclusion compares strings: a file is left out of the zip exactly when `str(file.relative_to(directory))` is one
of the `relative_path` strings, verbatim. `dot_slash_zipped` is a spelling that breaks the partition (`./a.txt` reads
`a.txt`, which the zip still holds); `multiUpload_zip_partition` is what holds, and with canonical spellings it is the
partition (`Canonical.relStr_eq_iff`). Likewise nothing keeps a `relative_path` inside the directory:
`absolute_path_read` reads `/etc/passwd`, and `multiUpload_reads_inside` shows every file read lies under the
directory unless some `relative_path` has a root or a `..` part.
-/

namespace ComputeHorde

/-- Modelled from the spec: `OutputUploadType` of the `_models` module, which is not in the sources; the upload kinds
the spec names. -/
inductive OutputUploadType where
  | singleFilePost
  | singleFilePut
  | zipAndHttpPost
  | zipAndHttpPut
  | multiUpload
  deriving DecidableEq, Repr

/-- The fields of a single-file upload of a `MultiUpload` that `upload` reads before it gathers. -/
structure SingleUpload where
  relativePath : String
  outputUploadType : OutputUploadType
  deriving DecidableEq, Repr

/-- Why `upload` raises `OutputUploadFailed` before it gathers. -/
inductive MultiUploadFailure where
  /-- `File not found: {file_path}`. -/
  | fileNotFound (filePath : PurePath)
  /-- `Unsupported upload type: {upload.output_upload_type}`. -/
  | unsupportedUploadType (t : OutputUploadType)
  /-- `Unsupported system output upload type: {system_output_upload.output_upload_type}`. -/
  | unsupportedSystemOutput (t : OutputUploadType)
  deriving DecidableEq, Repr

/-- A coroutine `upload` collects: a single-file upload of `file_path`, or the system output, which zips the directory
without `exclude`. -/
inductive UploadTask where
  | singleFile (filePath : PurePath) (uploadType : OutputUploadType)
  | systemOutput (exclude : List String) (uploadType : OutputUploadType)
  deriving DecidableEq, Repr

/-- The `for upload in self.upload_output.uploads` loop: the tasks and `single_file_uploads`, or the first failure. -/
def collectUploads (fs : FileSystem) (directory : PurePath) :
    List SingleUpload → Except MultiUploadFailure (List UploadTask × List String)
  | [] => .ok ([], [])
  | u :: us =>
    let filePath := directory.div u.relativePath
    if !fs.exists? filePath then .error (.fileNotFound filePath)
    else match u.outputUploadType with
      | .singleFilePost | .singleFilePut => do
        let (tasks, single) ← collectUploads fs directory us
        pure (.singleFile filePath u.outputUploadType :: tasks, u.relativePath :: single)
      | t => .error (.unsupportedUploadType t)

/-- `MultiUploadOutputUploader.upload` up to `asyncio.gather(*tasks)`: the coroutines it gathers, or the
`OutputUploadFailed` it raises. -/
def multiUploadTasks (fs : FileSystem) (directory : PurePath) (uploads : List SingleUpload)
    (systemOutput : Option OutputUploadType) : Except MultiUploadFailure (List UploadTask) := do
  let (tasks, single) ← collectUploads fs directory uploads
  match systemOutput with
  | none => pure tasks
  | some .zipAndHttpPost => pure (tasks ++ [.systemOutput single .zipAndHttpPost])
  | some .zipAndHttpPut => pure (tasks ++ [.systemOutput single .zipAndHttpPut])
  | some t => .error (.unsupportedSystemOutput t)

/-- The entries `zipped_directory(directory, exclude=...)` archives, relative to `directory`: those of
`directory.glob("**/*")` whose `str(file.relative_to(directory))` is not in `exclude`. -/
def zipEntries (fs : FileSystem) (directory : PurePath) (exclude : List String) : List (List String) :=
  (fs.glob directory).filter fun e => relStr e ∉ exclude

/-- The regular files a task opens, by their absolute parts: the file of a single-file upload when the OS walks its
path to a regular file (a directory cannot be opened), or the regular files the system zip archives. -/
def UploadTask.reads (fs : FileSystem) (directory : PurePath) : UploadTask → List (List String)
  | .singleFile p _ => if fs.walkable [] p.parts ∧ FileSystem.locate p ∈ fs.files then [FileSystem.locate p] else []
  | .systemOutput ex _ =>
    ((fs.globFiles directory).filter fun rel => rel ∈ zipEntries fs directory ex).map (FileSystem.locate directory ++ ·)

namespace MultiAux

/-- What the loop collects when no upload fails: one task per upload, its path joined to the directory, and the
`relative_path` strings. -/
theorem collectUploads_ok {fs : FileSystem} {directory : PurePath} :
    ∀ {us : List SingleUpload} {tasks : List UploadTask} {single : List String},
      collectUploads fs directory us = .ok (tasks, single) →
      tasks = us.map (fun u => .singleFile (directory.div u.relativePath) u.outputUploadType) ∧
        single = us.map (·.relativePath)
  | [], _, _, h => by cases h; exact ⟨rfl, rfl⟩
  | u :: us, tasks, single, h => by
    simp only [collectUploads] at h
    split_ifs at h
    cases hr : collectUploads fs directory us with
    | error e =>
      rw [hr] at h
      split at h <;> cases h
    | ok r =>
      obtain ⟨ih1, ih2⟩ := collectUploads_ok hr
      rw [hr] at h
      split at h <;> cases h <;> exact ⟨by rw [ih1]; rfl, by rw [ih2]; rfl⟩

theorem multiUploadTasks_ok {fs : FileSystem} {directory : PurePath} {uploads : List SingleUpload}
    {systemOutput : Option OutputUploadType} {tasks : List UploadTask}
    (h : multiUploadTasks fs directory uploads systemOutput = .ok tasks) :
    tasks = uploads.map (fun u => .singleFile (directory.div u.relativePath) u.outputUploadType) ++
      (systemOutput.map (.systemOutput (uploads.map (·.relativePath)))).toList := by
  simp only [multiUploadTasks] at h
  cases hc : collectUploads fs directory uploads with
  | error e => rw [hc] at h; cases h
  | ok r =>
    rw [hc] at h
    obtain ⟨h1, h2⟩ := collectUploads_ok hc
    rw [← h1, ← h2]
    split at h <;> cases h <;> simp

/-- A regular file under a directory the OS finds. -/
theorem mem_globFiles {fs : FileSystem} {directory : PurePath} {rel : List String} (h : rel ∈ fs.globFiles directory) :
    fs.isDirAt directory = true ∧ rel ≠ [] ∧ FileSystem.locate directory ++ rel ∈ fs.files := by
  unfold FileSystem.globFiles at h
  split_ifs at h with hd
  · exact ⟨hd, mem_relUnder.1 h⟩
  · cases h

theorem ne_nil_of_mem_globFiles {fs : FileSystem} {directory : PurePath} {rel : List String}
    (h : rel ∈ fs.globFiles directory) : rel ≠ [] ∧ (∀ p ∈ rel, IsName p) ∧ FileSystem.locate directory ++ rel ∈ fs.files := by
  obtain ⟨-, hne, hf⟩ := mem_globFiles h
  exact ⟨hne, fun p hp => (fs.names _ (List.mem_append_left _ hf)).2 p (List.mem_append_right _ hp), hf⟩

/-- `glob("**/*")` lists every directory on the way to a regular file under `directory`. -/
theorem mem_glob_of_prefix {fs : FileSystem} {directory : PurePath} {rel p : List String}
    (h : rel ∈ fs.globFiles directory) (hp : p ≠ []) (hpre : p <+: rel) : p ∈ fs.glob directory := by
  obtain ⟨hd, -, hf⟩ := mem_globFiles h
  rw [FileSystem.glob, if_pos hd, mem_relUnder, List.mem_append]
  refine ⟨hp, ?_⟩
  by_cases he : p = rel
  · exact .inl (he ▸ hf)
  · have hent : fs.isEntry (FileSystem.locate directory ++ rel) = true := by simp [FileSystem.isEntry, hf]
    have hdir := fs.isDir_of_prefix hent ((List.prefix_append_right_inj _).2 hpre) (by simpa using he)
    exact .inr (by simpa [FileSystem.isDir, hp] using hdir)

theorem mem_glob_of_mem_globFiles {fs : FileSystem} {directory : PurePath} {rel : List String}
    (h : rel ∈ fs.globFiles directory) : rel ∈ fs.glob directory :=
  mem_glob_of_prefix h (ne_nil_of_mem_globFiles h).1 (List.prefix_refl rel)

/-- A regular file under `directory` is archived exactly when its relative path's `str` is not excluded. -/
theorem mem_zipEntries_iff {fs : FileSystem} {directory : PurePath} {rel : List String}
    (h : rel ∈ fs.globFiles directory) (exclude : List String) :
    rel ∈ zipEntries fs directory exclude ↔ relStr rel ∉ exclude := by
  simp [zipEntries, mem_glob_of_mem_globFiles h]

end MultiAux

open MultiAux

/-- With a system zip, `upload` gathers it with the `relative_path` strings as exclusions: a regular file of the
directory goes into the zip exactly when its relative path's `str` is none of them, verbatim. When every
`relative_path` is canonical, that is when no single-file upload reads the file. -/
theorem multiUpload_zip_partition {fs : FileSystem} {directory : PurePath} {uploads : List SingleUpload}
    {t : OutputUploadType} {tasks : List UploadTask} (h : multiUploadTasks fs directory uploads (some t) = .ok tasks) :
    UploadTask.systemOutput (uploads.map (·.relativePath)) t ∈ tasks ∧
    ∀ rel ∈ fs.globFiles directory,
      (rel ∈ zipEntries fs directory (uploads.map (·.relativePath)) ↔ relStr rel ∉ uploads.map (·.relativePath)) ∧
      ((∀ u ∈ uploads, Canonical u.relativePath) →
        (relStr rel ∈ uploads.map (·.relativePath) ↔
          ∃ u ∈ uploads, FileSystem.locate (directory.div u.relativePath) = FileSystem.locate directory ++ rel)) := by
  refine ⟨?_, fun rel hrel => ⟨?_, fun hc => ?_⟩⟩
  · rw [multiUploadTasks_ok h]
    simp
  · exact mem_zipEntries_iff hrel _
  · obtain ⟨hne, hn, -⟩ := ne_nil_of_mem_globFiles hrel
    simp only [List.mem_map]
    refine exists_congr fun u => and_congr_right fun hu => ?_
    rw [eq_comm, (hc u hu).relStr_eq_iff hne hn, locate_div (hc u hu).root (hc u hu).not_dotdot,
      List.append_cancel_left_eq]

/-- A file system with `/etc/passwd`, `/job/secret` and the output directory `/job/out` holding `a.txt`. -/
def jobFs : FileSystem :=
  ⟨[["etc", "passwd"], ["job", "secret"], ["job", "out", "a.txt"]], [["etc"], ["job"], ["job", "out"]], by decide,
    by decide, by decide⟩

/-- The output directory `/job/out`. -/
def jobOut : PurePath := ⟨true, ["job", "out"]⟩

/-- The output directory `/job/out` holding the files `a.txt` and `b.txt` and the empty directory `logs`. -/
def outFs : FileSystem :=
  ⟨[["job", "out", "a.txt"], ["job", "out", "b.txt"]], [["job"], ["job", "out"], ["job", "out", "logs"]], by decide,
    by decide, by decide⟩

/-- A single-file upload of `a.txt` from `/job/out`, which also holds `b.txt` and `logs`: the zip leaves `a.txt` out and
holds `b.txt` and `logs`. -/
theorem multiUpload_zip_partition_canonical :
    multiUploadTasks outFs jobOut [⟨"a.txt", .singleFilePost⟩] (some .zipAndHttpPost) =
      .ok [.singleFile (jobOut.div "a.txt") .singleFilePost, .systemOutput ["a.txt"] .zipAndHttpPost] ∧
    outFs.globFiles jobOut = [["a.txt"], ["b.txt"]] ∧ zipEntries outFs jobOut ["a.txt"] = [["b.txt"], ["logs"]] ∧
    UploadTask.systemOutput ["a.txt"] .zipAndHttpPost ∈
      [.singleFile (jobOut.div "a.txt") .singleFilePost, .systemOutput ["a.txt"] .zipAndHttpPost] ∧
    ∀ rel ∈ outFs.globFiles jobOut,
      (rel ∈ zipEntries outFs jobOut ["a.txt"] ↔ relStr rel ∉ ["a.txt"]) ∧
      ((∀ u ∈ ([⟨"a.txt", .singleFilePost⟩] : List SingleUpload), Canonical u.relativePath) →
        (relStr rel ∈ ["a.txt"] ↔ ∃ u ∈ ([⟨"a.txt", .singleFilePost⟩] : List SingleUpload),
          FileSystem.locate (jobOut.div u.relativePath) = FileSystem.locate jobOut ++ rel)) :=
  ⟨rfl, by decide, by decide, multiUpload_zip_partition (rfl : multiUploadTasks outFs jobOut [⟨"a.txt", .singleFilePost⟩]
    (some .zipAndHttpPost) = .ok [.singleFile (jobOut.div "a.txt") .singleFilePost,
      .systemOutput ["a.txt"] .zipAndHttpPost])⟩

/-- `./a.txt` names `a.txt`, which the single-file upload reads and the system zip still holds: both tasks read
`/job/out/a.txt`. -/
theorem dot_slash_zipped :
    multiUploadTasks jobFs jobOut [⟨"./a.txt", .singleFilePost⟩] (some .zipAndHttpPost) =
      .ok [.singleFile (jobOut.div "./a.txt") .singleFilePost, .systemOutput ["./a.txt"] .zipAndHttpPost] ∧
    (UploadTask.singleFile (jobOut.div "./a.txt") .singleFilePost).reads jobFs jobOut = [["job", "out", "a.txt"]] ∧
    (UploadTask.systemOutput ["./a.txt"] .zipAndHttpPost).reads jobFs jobOut = [["job", "out", "a.txt"]] :=
  ⟨rfl, rfl, by decide⟩

/-- Every file `upload` reads lies under the directory, or is the path that a single-file upload joins from a
`relative_path` with a root or a `..` part. -/
theorem multiUpload_reads_inside {fs : FileSystem} {directory : PurePath} {uploads : List SingleUpload}
    {systemOutput : Option OutputUploadType} {tasks : List UploadTask}
    (h : multiUploadTasks fs directory uploads systemOutput = .ok tasks) :
    ∀ task ∈ tasks, ∀ f ∈ task.reads fs directory, FileSystem.locate directory <+: f ∨
      ∃ u ∈ uploads, f = FileSystem.locate (directory.div u.relativePath) ∧
        ((PurePath.ofString u.relativePath).root = true ∨ ".." ∈ (PurePath.ofString u.relativePath).parts) := by
  rw [multiUploadTasks_ok h]
  intro task htask f hf
  rcases List.mem_append.1 htask with htask | htask
  · obtain ⟨u, hu, rfl⟩ := List.mem_map.1 htask
    have hf' : f = FileSystem.locate (directory.div u.relativePath) := by
      simp only [UploadTask.reads] at hf
      split_ifs at hf
      · exact List.mem_singleton.1 hf
      · cases hf
    by_cases hr : (PurePath.ofString u.relativePath).root = true
    · exact .inr ⟨u, hu, hf', .inl hr⟩
    by_cases hd : ".." ∈ (PurePath.ofString u.relativePath).parts
    · exact .inr ⟨u, hu, hf', .inr hd⟩
    · rw [hf', locate_div (by simpa using hr) hd]
      exact .inl (List.prefix_append _ _)
  · obtain ⟨t, -, rfl⟩ : ∃ t, systemOutput = some t ∧ .systemOutput (uploads.map (·.relativePath)) t = task := by
      simpa using htask
    obtain ⟨rel, -, rfl⟩ := List.mem_map.1 hf
    exact .inl (List.prefix_append _ _)

theorem multiUpload_reads_inside_job :
    multiUploadTasks jobFs jobOut [⟨"a.txt", .singleFilePost⟩] none = .ok [.singleFile (jobOut.div "a.txt") .singleFilePost] ∧
    ∀ f ∈ (UploadTask.singleFile (jobOut.div "a.txt") .singleFilePost).reads jobFs jobOut,
      FileSystem.locate jobOut <+: f ∨ ∃ u ∈ ([⟨"a.txt", .singleFilePost⟩] : List SingleUpload),
        f = FileSystem.locate (jobOut.div u.relativePath) ∧
          ((PurePath.ofString u.relativePath).root = true ∨ ".." ∈ (PurePath.ofString u.relativePath).parts) :=
  ⟨rfl, multiUpload_reads_inside (rfl : multiUploadTasks jobFs jobOut [⟨"a.txt", .singleFilePost⟩] none =
    .ok [.singleFile (jobOut.div "a.txt") .singleFilePost]) _ (List.mem_singleton_self _)⟩

/-- An absolute `relative_path` and one with `..` read `/etc/passwd` and `/job/secret`, outside `/job/out`. -/
theorem absolute_path_read :
    multiUploadTasks jobFs jobOut [⟨"/etc/passwd", .singleFilePost⟩, ⟨"../secret", .singleFilePut⟩] none =
      .ok [.singleFile (jobOut.div "/etc/passwd") .singleFilePost, .singleFile (jobOut.div "../secret") .singleFilePut] ∧
    (UploadTask.singleFile (jobOut.div "/etc/passwd") .singleFilePost).reads jobFs jobOut = [["etc", "passwd"]] ∧
    (UploadTask.singleFile (jobOut.div "../secret") .singleFilePut).reads jobFs jobOut = [["job", "secret"]] ∧
    ¬FileSystem.locate jobOut <+: ["etc", "passwd"] ∧ ¬FileSystem.locate jobOut <+: ["job", "secret"] :=
  ⟨rfl, rfl, rfl, by decide, by decide⟩

end ComputeHorde
