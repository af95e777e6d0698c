import Mathlib
import TileLevel.FileTree

/-!
# Files that Are Written

In a tree of files, what is written to a path without an error is read from it. The path leads where
it led before, through `..` as well, because a directory is never written over: only the end of a way
can be the new file.

## Main definitions

- `FileTree.IsTarget`: the place of a file that is written to a path

## Main statements

- `FileTree.find?_put`: an entry that is put, and the others
- `FileTree.follow_put`: ways in a tree with a new file
- `FileTree.read_of_write`: what was written is read by its path
- `FileTree.read_write_other`: what is read by other paths stays as it was
-/

namespace TileLevel.FileTree

variable {tree : FileTree} {place here there names rest : List String} {path : String}
  {bytes : ByteArray}

/-! ## §1 Entries -/

/-- **An entry that is put** is found, and the other entries are found as before. -/
theorem find?_put (tree : FileTree) (hplace : place ≠ []) (entry : Entry) (other : List String) :
    (tree.put place entry).find? other =
      if other = place then some entry else tree.find? other := by
  unfold find? put
  by_cases hsame : other = place
  · simp [hsame, hplace]
  · have hother : (other == place) = false := by simpa using hsame
    -- the entries that were dropped are under another name
    have hkept : (tree.entries.filter (·.1 != place)).lookup other = tree.entries.lookup other := by
      induction tree.entries with
      | nil => rfl
      | cons first more ih =>
        obtain ⟨key, old⟩ := first
        by_cases hkey : key = place
        · simp [hkey, List.lookup_cons, hother, ih]
        · simp [hkey, List.lookup_cons, ih]
    simp [List.lookup_cons, hother, hsame, hkept]

/-- The root is a directory, so what is none is below it. -/
theorem ne_nil_of_not_directory (h : tree.find? place ≠ some .directory) : place ≠ [] := by
  rintro rfl
  exact h (if_pos rfl)

/-! ## §2 Ways -/

theorem obstacle?_eq_none_iff :
    tree.obstacle? here = none ↔
      tree.find? here = some .directory ∧ tree.refusal? here = none := by
  unfold obstacle?
  split <;> simp [*]

/-- There is a way through where there was one. What was replaced was no directory. -/
theorem obstacle?_put (hplace : tree.find? place ≠ some .directory) (entry : Entry)
    (h : tree.obstacle? here = none) : (tree.put place entry).obstacle? here = none := by
  obtain ⟨hdirectory, hopen⟩ := obstacle?_eq_none_iff.mp h
  have hother : here ≠ place := by
    rintro rfl
    exact hplace hdirectory
  rw [obstacle?_eq_none_iff, find?_put tree (ne_nil_of_not_directory hplace), if_neg hother]
  exact ⟨hdirectory, hopen⟩

theorem follow_cons_of_way {name : String} (hway : tree.obstacle? here = none)
    (hshort : name.utf8ByteSize ≤ nameLimit) :
    tree.follow here (name :: rest) = tree.follow (placeOf here name) rest := by
  simp only [follow, hway, if_neg (Nat.not_lt.mpr hshort)]

/-- **Following names** takes them one by one, each through a place that there is a way through. -/
theorem follow_cons_eq_ok_iff {name : String} :
    tree.follow here (name :: rest) = .ok there ↔
      tree.obstacle? here = none ∧ name.utf8ByteSize ≤ nameLimit
        ∧ tree.follow (placeOf here name) rest = .ok there := by
  rw [follow]
  cases tree.obstacle? here with
  | some fault => simp
  | none =>
    by_cases hlong : nameLimit < name.utf8ByteSize
    · simp [hlong]
    · simp [hlong, Nat.not_lt.mp hlong]

theorem follow_append (h : tree.follow here names = .ok there) (rest : List String) :
    tree.follow here (names ++ rest) = tree.follow there rest := by
  induction names generalizing here with
  | nil =>
    cases h
    rfl
  | cons name names ih =>
    obtain ⟨hway, hshort, hnames⟩ := follow_cons_eq_ok_iff.mp h
    rw [List.cons_append, follow_cons_of_way hway hshort, ih hnames]

/-- **A way in a tree with a new entry** leads where it led. -/
theorem follow_put (hplace : tree.find? place ≠ some .directory) (entry : Entry)
    (h : tree.follow here names = .ok there) :
    (tree.put place entry).follow here names = .ok there := by
  induction names generalizing here with
  | nil => exact h
  | cons name names ih =>
    obtain ⟨hway, hshort, hnames⟩ := follow_cons_eq_ok_iff.mp h
    exact follow_cons_eq_ok_iff.mpr ⟨obstacle?_put hplace entry hway, hshort, ih hnames⟩

/-! ## §3 Reading and writing -/

/-- The place of a file that is written to a path: the last name of the path, in the directory that
    the other names lead to, where there is none yet but perhaps a file. -/
structure IsTarget (tree : FileTree) (path : String) (place : List String) : Prop where
  no_fault : pathFault? path = none
  not_directory : tree.find? place ≠ some .directory
  not_refused : tree.refusal? place = none
  leads : ∃ directory name parents, place = directory ++ [name] ∧ pathNames path = parents ++ [name]
    ∧ name ∉ directoryNames ∧ name.utf8ByteSize ≤ nameLimit
    ∧ tree.follow (tree.origin path) parents = .ok directory ∧ tree.obstacle? directory = none

/-- The name to write is the last one, if that is not empty. -/
theorem eq_append_of_dropWhile {all parents : List String} {name : String}
    (h : all.reverse.dropWhile (· == "") = name :: parents)
    (hlast : all.getLastD "" ∉ directoryNames) :
    all = parents.reverse ++ [name] ∧ name ∉ directoryNames := by
  obtain rfl | ⟨front, last, rfl⟩ := List.eq_nil_or_concat all
  · simp at h
  · rw [List.concat_eq_append, List.getLastD_concat] at hlast
    have hne : ¬ last = "" := by
      rintro rfl
      exact hlast (by decide)
    rw [List.concat_eq_append, List.reverse_concat,
      List.dropWhile_cons_of_neg (by simpa using hne), List.cons.injEq] at h
    obtain ⟨rfl, rfl⟩ := h
    rw [List.concat_eq_append, List.reverse_reverse]
    exact ⟨rfl, hlast⟩

/-- **A file is written to its place.** -/
theorem isTarget_of_target (h : tree.target path = .ok place) : tree.IsTarget path place := by
  unfold target at h
  split at h
  case h_1 => cases h
  case h_2 hfault =>
    dsimp only at h
    split at h
    case h_1 => cases h
    case h_2 name parents hnames =>
      split at h
      case h_1 => cases h
      case h_2 directory hparents =>
        split at h
        case h_1 => cases h
        case h_2 hway =>
          split_ifs at h with hends hlong hthere
          split at h
          case h_1 => cases h
          case h_2 hopen =>
            cases h
            obtain ⟨hpath, hname⟩ := eq_append_of_dropWhile hnames hends
            exact ⟨hfault, hthere, hopen, directory, name, parents.reverse, rfl, hpath, hname,
              Nat.not_lt.mp hlong, hparents, hway⟩

/-- The way to a file that has been written. -/
theorem IsTarget.follow_put (h : tree.IsTarget path place) (entry : Entry) :
    (tree.put place entry).follow (tree.origin path) (pathNames path) = .ok place := by
  obtain ⟨directory, name, parents, rfl, hpath, hname, hshort, hparents, hway⟩ := h.leads
  have hdown : placeOf directory name = directory ++ [name] := by
    have hup : name ≠ ".." := by
      rintro rfl
      exact hname (by decide)
    rw [placeOf, if_neg hup, if_neg hname]
  rw [hpath, follow_append (FileTree.follow_put h.not_directory entry hparents),
    follow_cons_of_way (obstacle?_put h.not_directory entry hway) hshort, hdown]
  rfl

/-- **What was written is read.** -/
theorem IsTarget.read_put (h : tree.IsTarget path place) (bytes : ByteArray) :
    (tree.put place (.file bytes)).read path = .ok bytes := by
  have hway : (tree.put place (.file bytes)).follow ((tree.put place (.file bytes)).origin path)
      (pathNames path) = .ok place := h.follow_put _
  have hfound : (tree.put place (.file bytes)).find? place = some (.file bytes) := by
    rw [find?_put tree (ne_nil_of_not_directory h.not_directory), if_pos rfl]
  have hopen : (tree.put place (.file bytes)).refusal? place = none := h.not_refused
  simp only [read, h.no_fault, hway, readPlace, hfound, hopen]

theorem read_of_write {after : FileTree} (h : tree.write path bytes = (.ok (), after)) :
    after.read path = .ok bytes := by
  unfold write at h
  cases htarget : tree.target path with
  | error fault => simp [htarget] at h
  | ok place =>
    have hread := (isTarget_of_target htarget).read_put bytes
    simp only [htarget] at h
    -- without an error there was room for the whole file
    split at h
    case h_1 =>
      cases h
      exact hread
    case h_2 =>
      split at h
      case isTrue =>
        cases h
        exact hread
      case isFalse => cases h

instance : LawfulFileSystem FileTree where
  read_write := read_of_write

/-- **Reading** takes a path that leads to a place, and what is there. -/
theorem read_eq_ok_iff :
    tree.read path = .ok bytes ↔
      pathFault? path = none ∧ ∃ there,
        tree.follow (tree.origin path) (pathNames path) = .ok there
          ∧ tree.readPlace there = .ok bytes := by
  unfold read
  cases pathFault? path with
  | some fault => simp
  | none => cases tree.follow (tree.origin path) (pathNames path) <;> simp

/-- Whatever comes of a write, no more is done than to put one file at the place of the path. -/
theorem write_snd_cases (tree : FileTree) (path : String) (bytes : ByteArray) :
    (tree.write path bytes).2 = tree
      ∨ ∃ place written, tree.target path = .ok place
        ∧ (tree.write path bytes).2 = tree.put place (.file written) := by
  unfold write
  cases htarget : tree.target path with
  | error fault => exact .inl rfl
  | ok place =>
    refine .inr ⟨place, ?_⟩
    cases tree.room with
    | none => exact ⟨bytes, rfl, rfl⟩
    | some room =>
      dsimp only
      split
      case isTrue => exact ⟨bytes, rfl, rfl⟩
      case isFalse => exact ⟨bytes.extract 0 room, rfl, rfl⟩

/-- **What is read from another path** is as before, also when the write fails. -/
theorem read_write_other {other : String} {old : ByteArray} (hold : tree.read other = .ok old)
    (hother : tree.follow (tree.origin other) (pathNames other) ≠ tree.target path)
    (bytes : ByteArray) : (tree.write path bytes).2.read other = .ok old := by
  rcases write_snd_cases tree path bytes with hsame | ⟨place, written, htarget, hput⟩
  · rwa [hsame]
  · obtain ⟨hfault, there, hway, hread⟩ := read_eq_ok_iff.mp hold
    have hplace := (isTarget_of_target htarget).not_directory
    have hne : there ≠ place := by
      rintro rfl
      exact hother (hway.trans htarget.symm)
    rw [hput]
    refine read_eq_ok_iff.mpr ⟨hfault, there, FileTree.follow_put hplace _ hway, ?_⟩
    rw [readPlace, find?_put tree (ne_nil_of_not_directory hplace), if_neg hne]
    exact hread

/-- From the working directory a file in its parent is reached by `..` and from the root, but not by
    its name alone. -/
example :
    let tree : FileTree :=
      { entries := [(["a"], .file "O".toUTF8), (["b"], .directory)], workingDirectory := ["b"] }
    tree.read "../b/.././a" = .ok "O".toUTF8 ∧ tree.read "/../a" = .ok "O".toUTF8
      ∧ tree.read "a" = .error .notFound ∧ (tree.write "a/.." "".toUTF8).1 = .error .notFound
      ∧ (tree.write ".." "".toUTF8).1 = .error .isADirectory := by
  decide +kernel

end TileLevel.FileTree
