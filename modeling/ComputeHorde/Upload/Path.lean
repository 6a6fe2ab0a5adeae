import Mathlib.Data.List.Infix
import Mathlib.Data.List.Dedup

/-!
# `pathlib` paths and the files they name

A `PurePath` is what `pathlib.PurePosixPath` keeps of a string: whether it starts at the root and its parts, split at
`/` with empty and `.` parts dropped (`..` is kept). `path / s` replaces `path` when `s` has a root; `str` of a path
without a root joins its parts with `/`. A file system lists its regular files and its directories. The OS walks a
path as `stat` does, looking each part up in the directory it has reached (`walkable`), and `..` goes up from a
directory (`resolve`): `nodir/../a.txt` does not exist, though it reads as `a.txt`.

Two round trips carry the `MultiUpload` results: `pyJoin_pySplit` (joining the parts `split` gives is the string back)
and `pySplit_pyJoin` (splitting a join of parts without `/` gives the parts back); with them `str` and parsing are
inverse on paths in canonical form (`Canonical.relStr_eq_iff`).
-/

namespace ComputeHorde

/-- `str.split(sep)` on the characters of a string. -/
def pySplit (sep : Char) : List Char → List (List Char)
  | [] => [[]]
  | c :: cs =>
    if c = sep then [] :: pySplit sep cs
    else match pySplit sep cs with
      | [] => [[c]]
      | w :: ws => (c :: w) :: ws

/-- `sep.join(parts)` on the characters of the parts. -/
def pyJoin (sep : Char) : List (List Char) → List Char
  | [] => []
  | [w] => w
  | w :: ws => w ++ sep :: pyJoin sep ws

/-- `pathlib.PurePosixPath`: whether the path starts at the root, and its parts. -/
structure PurePath where
  root : Bool
  parts : List String
  deriving DecidableEq, Repr

namespace PurePath

/-- `PurePosixPath(s)`: rooted when `s` starts with `/`; the parts of `s.split("/")` but the empty ones and `.`. -/
def ofString (s : String) : PurePath where
  root := s.toList.head? = some '/'
  parts := ((pySplit '/' s.toList).filter fun p => p ≠ [] ∧ p ≠ ['.']).map String.mk

/-- `path / s`: `s` with a root replaces `path`; otherwise its parts follow those of `path`. -/
def div (p : PurePath) (s : String) : PurePath :=
  if (ofString s).root then ofString s else ⟨p.root, p.parts ++ (ofString s).parts⟩

end PurePath

/-- `str` of a path without a root: its parts joined by `/`, `.` for none. -/
def relStr (parts : List String) : String :=
  if parts = [] then "." else String.mk (pyJoin '/' (parts.map String.toList))

/-- Where the OS takes the parts of a path from the directory `acc`, when it can walk them: `..` goes up one
directory, not above the root. Symbolic links are not modelled. -/
def resolve : List String → List String → List String
  | acc, [] => acc
  | acc, p :: ps => resolve (if p = ".." then acc.dropLast else acc ++ [p]) ps

/-- A name a directory entry can have: not empty, not `.` or `..`, without `/`. -/
def IsName (p : String) : Prop := p ≠ "" ∧ p ≠ "." ∧ p ≠ ".." ∧ '/' ∉ p.toList

instance (p : String) : Decidable (IsName p) := inferInstanceAs (Decidable (_ ∧ _ ∧ _ ∧ _))

/-- A file system: the absolute paths of its regular files and of its directories, each by its parts. The root `[]` is
a directory and is not listed; every listed path is made of names, its parent is the root or a listed directory, and
no path is listed twice, so none is both a file and a directory. -/
structure FileSystem where
  files : List (List String)
  dirs : List (List String)
  names : ∀ e ∈ files ++ dirs, e ≠ [] ∧ ∀ p ∈ e, IsName p
  closed : ∀ e ∈ files ++ dirs, e.dropLast = [] ∨ e.dropLast ∈ dirs
  nodup : (files ++ dirs).Nodup

namespace FileSystem

/-- A directory: the root or a listed one. -/
def isDir (fs : FileSystem) (d : List String) : Bool := decide (d = [] ∨ d ∈ fs.dirs)

/-- A directory or a regular file. -/
def isEntry (fs : FileSystem) (e : List String) : Bool := fs.isDir e || decide (e ∈ fs.files)

/-- Whether the OS can walk the parts of a path from `cur`, as `stat` does: it looks each part up in the path it has
reached, which must be a directory, and `..` goes up from it. -/
def walkable (fs : FileSystem) : List String → List String → Bool
  | _, [] => true
  | cur, p :: ps => fs.isDir cur && fs.walkable (if p = ".." then cur.dropLast else cur ++ [p]) ps

/-- Where an absolute path leads. -/
def locate (p : PurePath) : List String := resolve [] p.parts

/-- `path.exists()`: the OS walks the path and finds a regular file or a directory at its end. -/
def exists? (fs : FileSystem) (p : PurePath) : Bool :=
  fs.walkable [] p.parts && fs.isEntry (locate p)

/-- `path.is_dir()`: the OS walks the path and finds a directory at its end. -/
def isDirAt (fs : FileSystem) (p : PurePath) : Bool :=
  fs.walkable [] p.parts && fs.isDir (locate p)

end FileSystem

/-- The paths of `entries` strictly under `d`, each by its parts relative to `d`. -/
def relUnder (d : List String) (entries : List (List String)) : List (List String) :=
  entries.filterMap fun e => if d <+: e ∧ d ≠ e then some (e.drop d.length) else none

namespace FileSystem

/-- The regular files under `directory`, each by its parts relative to it (`file.relative_to(directory)`); none when
the OS finds no directory there. -/
def globFiles (fs : FileSystem) (directory : PurePath) : List (List String) :=
  if fs.isDirAt directory then relUnder (locate directory) fs.files else []

/-- `directory.glob("**/*")`, relative to `directory`: every regular file and every directory under it, empty ones
too, each once; nothing when the OS finds no directory there. -/
def glob (fs : FileSystem) (directory : PurePath) : List (List String) :=
  if fs.isDirAt directory then relUnder (locate directory) (fs.files ++ fs.dirs) else []

end FileSystem

/-- A string in canonical form: no root, and parts that are neither empty nor `.` nor `..` (so no `//`, no trailing
`/`, no `./`). -/
def Canonical (s : String) : Prop :=
  s.toList.head? ≠ some '/' ∧ ∀ p ∈ pySplit '/' s.toList, p ≠ [] ∧ p ≠ ['.'] ∧ p ≠ ['.', '.']

instance (s : String) : Decidable (Canonical s) := inferInstanceAs (Decidable (_ ∧ _))

namespace PathAux

theorem pySplit_ne_nil (sep : Char) (l : List Char) : pySplit sep l ≠ [] := by
  cases l with
  | nil => simp [pySplit]
  | cons c cs =>
    simp only [pySplit]
    split_ifs
    · simp
    · split <;> simp

theorem pyJoin_cons_cons (sep : Char) (w v : List Char) (ws : List (List Char)) :
    pyJoin sep (w :: v :: ws) = w ++ sep :: pyJoin sep (v :: ws) := rfl

/-- Adding a character that is not the separator to the front of a string adds it to its first part. -/
theorem pyJoin_consHead (sep : Char) (c : Char) (w : List Char) (ws : List (List Char)) :
    pyJoin sep ((c :: w) :: ws) = c :: pyJoin sep (w :: ws) := by
  cases ws <;> rfl

end PathAux

open PathAux

/-- Joining the parts `split` gives is the string back. -/
theorem pyJoin_pySplit (sep : Char) (l : List Char) : pyJoin sep (pySplit sep l) = l := by
  induction l with
  | nil => rfl
  | cons c cs ih =>
    simp only [pySplit]
    split_ifs with hc
    · obtain ⟨w, ws, hw⟩ := List.exists_cons_of_ne_nil (pySplit_ne_nil sep cs)
      rw [hw] at ih ⊢
      rw [pyJoin_cons_cons, List.nil_append, ih, hc]
    · split
      · rename_i h
        exact absurd h (pySplit_ne_nil sep cs)
      · rename_i w ws h
        rw [h] at ih
        rw [pyJoin_consHead, ih]

/-- A string without the separator, in front of another, joins the first part of the other's split. -/
theorem pySplit_append (sep : Char) {w : List Char} (hw : sep ∉ w) (rest : List Char) :
    pySplit sep (w ++ rest) = (w ++ (pySplit sep rest).headD []) :: (pySplit sep rest).tail := by
  induction w with
  | nil =>
    obtain ⟨v, vs, h⟩ := List.exists_cons_of_ne_nil (pySplit_ne_nil sep rest)
    simp [h]
  | cons c cs ih =>
    have hc : c ≠ sep := fun e => hw (e ▸ List.mem_cons_self c cs)
    rw [List.cons_append, pySplit, if_neg hc, ih fun h => hw (List.mem_cons_of_mem c h)]
    rfl

/-- Splitting a join of parts without the separator gives the parts back. -/
theorem pySplit_pyJoin (sep : Char) :
    ∀ (ws : List (List Char)), ws ≠ [] → (∀ w ∈ ws, sep ∉ w) → pySplit sep (pyJoin sep ws) = ws
  | [], h, _ => absurd rfl h
  | [w], _, hw => by
    simpa [pyJoin, pySplit] using pySplit_append sep (hw w (List.mem_singleton_self _)) []
  | w :: v :: ws, _, hw => by
    have ih := pySplit_pyJoin sep (v :: ws) (List.cons_ne_nil _ _) fun u hu => hw u (List.mem_cons_of_mem _ hu)
    rw [pyJoin_cons_cons, pySplit_append sep (hw w (List.mem_cons_self _ _)), pySplit, if_pos rfl, ih]
    simp

/-- A path without `..` goes down from where it starts. -/
theorem resolve_of_not_dotdot (acc : List String) {q : List String} (h : ".." ∉ q) : resolve acc q = acc ++ q := by
  induction q generalizing acc with
  | nil => simp [resolve]
  | cons p ps ih =>
    have hp : p ≠ ".." := fun e => h (e ▸ List.mem_cons_self _ _)
    rw [resolve, if_neg hp, ih _ fun hm => h (List.mem_cons_of_mem _ hm)]
    simp

theorem resolve_append (acc d q : List String) : resolve acc (d ++ q) = resolve (resolve acc d) q := by
  induction d generalizing acc with
  | nil => rfl
  | cons p ps ih => exact ih _

/-- Joining a path without a root and without `..` leads under the directory. -/
theorem locate_div {dir : PurePath} {s : String} (hr : (PurePath.ofString s).root = false)
    (hd : ".." ∉ (PurePath.ofString s).parts) :
    FileSystem.locate (dir.div s) = FileSystem.locate dir ++ (PurePath.ofString s).parts := by
  simp only [PurePath.div, hr, FileSystem.locate, resolve_append, Bool.false_eq_true, if_false]
  exact resolve_of_not_dotdot _ hd

section Canonical

variable {s : String} (hs : Canonical s)
include hs

theorem Canonical.root : (PurePath.ofString s).root = false := by
  simpa [PurePath.ofString] using hs.1

theorem Canonical.parts : (PurePath.ofString s).parts = (pySplit '/' s.toList).map String.mk := by
  rw [PurePath.ofString, List.filter_eq_self.2 fun p hp => by simpa using ⟨(hs.2 p hp).1, (hs.2 p hp).2.1⟩]

theorem Canonical.not_dotdot : ".." ∉ (PurePath.ofString s).parts := by
  rw [hs.parts]
  intro h
  obtain ⟨p, hp, hpe⟩ := List.mem_map.1 h
  exact (hs.2 p hp).2.2 (congrArg String.toList hpe)

/-- `str` and parsing are inverse on a canonical string and the parts of a file: the parts are those of the string
exactly when their `str` is the string. -/
theorem Canonical.relStr_eq_iff {rel : List String} (hrel : rel ≠ []) (hn : ∀ p ∈ rel, IsName p) :
    relStr rel = s ↔ (PurePath.ofString s).parts = rel := by
  have hjoin : relStr rel = String.mk (pyJoin '/' (rel.map String.toList)) := if_neg hrel
  rw [hs.parts, hjoin]
  constructor
  · rintro rfl
    show List.map String.mk (pySplit '/' (pyJoin '/' (rel.map String.toList))) = rel
    rw [pySplit_pyJoin '/' _ (by simpa using hrel) fun w hw => ?_]
    · simp [Function.comp_def]
    · obtain ⟨p, hp, rfl⟩ := List.mem_map.1 hw
      exact (hn p hp).2.2.2
  · intro h
    rw [← h, List.map_map]
    simp [Function.comp_def, pyJoin_pySplit]

end Canonical

/-! ## What the OS finds in a file system -/

namespace FileSystem

variable (fs : FileSystem)

theorem isEntry_of_isDir {d : List String} (h : fs.isDir d = true) : fs.isEntry d = true := by
  simp [isEntry, h]

theorem mem_of_isEntry {e : List String} (h : fs.isEntry e = true) (hne : e ≠ []) : e ∈ fs.files ++ fs.dirs := by
  simp only [isEntry, isDir, Bool.or_eq_true, decide_eq_true_eq] at h
  rcases h with (h | h) | h
  · exact absurd h hne
  · exact List.mem_append_right _ h
  · exact List.mem_append_left _ h

/-- Every path above an entry is a directory. -/
theorem isDir_of_prefix {e q : List String} (he : fs.isEntry e = true) (hq : q <+: e) (hne : q ≠ e) :
    fs.isDir q = true := by
  induction e using List.reverseRecOn generalizing q with
  | nil => exact absurd (List.prefix_nil.1 hq) hne
  | append_singleton e a ih =>
    have hparent : fs.isDir e = true := by
      simpa [isDir, List.dropLast_concat] using fs.closed _ (fs.mem_of_isEntry he (by simp))
    rcases List.prefix_concat_iff.1 hq with rfl | hq
    · exact absurd rfl hne
    · by_cases h : q = e
      · exact h ▸ hparent
      · exact ih (fs.isEntry_of_isDir hparent) hq h

end FileSystem

theorem mem_relUnder {d rel : List String} {entries : List (List String)} :
    rel ∈ relUnder d entries ↔ rel ≠ [] ∧ d ++ rel ∈ entries := by
  simp only [relUnder, List.mem_filterMap, Option.ite_none_right_eq_some, Option.some.injEq]
  constructor
  · rintro ⟨e, he, ⟨⟨t, rfl⟩, hne⟩, rfl⟩
    exact ⟨by simpa using hne, by simpa using he⟩
  · rintro ⟨hne, hmem⟩
    exact ⟨d ++ rel, hmem, ⟨List.prefix_append _ _, by simpa using hne.symm⟩, by simp⟩

end ComputeHorde
