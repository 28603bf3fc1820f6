import HttpFetch.Disk
import Mathlib.Data.List.Basic
import Mathlib.Tactic.SplitIfs
/-!
# What putting a file on a disk changes

A file that is put somewhere is there, and every other node stays as it is (`Disk.puts_put`). So the
ways through directories stay as well, unless the file takes the place of a directory
(`Disk.Puts.locate`), which creating a file never does (`Disk.create_ok`).
-/

namespace HttpFetch

namespace Disk

/-! ## Nodes -/

/-- The bytes of the file that a path leads to; none if there is no file. -/
def bytesAt (disk : Disk) (path : Path) : Bytes := ((disk.content? path).getD #[]).toList

/-- The bytes of files, one after the other. -/
def bytesIn (disk : Disk) (files : List Path) : Bytes := files.flatMap disk.bytesAt

theorem bytesIn_append_singleton (disk : Disk) (files : List Path) (path : Path) :
    disk.bytesIn (files ++ [path]) = disk.bytesIn files ++ disk.bytesAt path := by
  rw [bytesIn, bytesIn, List.flatMap_append, List.flatMap_singleton]

/-- The paths of the nodes on a disk, in the order in which they came up. -/
def paths (disk : Disk) : List Path := disk.nodes.map (·.1)

theorem node?_eq {path : Path} (named : path ≠ []) (disk : Disk) :
    disk.node? path = (disk.nodes.find? (·.1 = path)).map (·.2) := by
  cases path with
  | nil => exact absurd rfl named
  | cons name rest => rfl

theorem content?_congr {disk disk' : Disk} {path : Path}
    (same : disk.node? path = disk'.node? path) :
    disk.content? path = disk'.content? path := by
  rw [content?, content?, same]

theorem content?_eq_some {disk : Disk} {path : Path} {content : Array UInt8} :
    disk.content? path = some content ↔ disk.node? path = some (.file content) := by
  rw [content?]
  rcases disk.node? path with _ | _ | own <;> simp

theorem bytesAt_of_content? {disk : Disk} {path : Path} {content : Array UInt8}
    (h : disk.content? path = some content) : disk.bytesAt path = content.toList := by
  rw [bytesAt, h]
  rfl

theorem bytesAt_congr {disk disk' : Disk} {path : Path}
    (same : disk.node? path = disk'.node? path) :
    disk.bytesAt path = disk'.bytesAt path := by
  rw [bytesAt, bytesAt, content?_congr same]

/-- Whether there is a node is a matter of the paths. -/
theorem isSome_node? {path : Path} (named : path ≠ []) (disk : Disk) :
    (disk.node? path).isSome = true ↔ path ∈ disk.paths := by
  rw [node?_eq named, Option.isSome_map, List.find?_isSome, paths, List.mem_map]
  constructor
  · rintro ⟨entry, mem, same⟩
    exact ⟨entry, mem, of_decide_eq_true same⟩
  · rintro ⟨entry, mem, same⟩
    exact ⟨entry, mem, decide_eq_true same⟩

theorem mem_paths_of_content? {disk : Disk} {path : Path} {content : Array UInt8}
    (h : disk.content? path = some content) : path ∈ disk.paths := by
  have node := content?_eq_some.1 h
  have named : path ≠ [] := by
    rintro rfl
    cases node
  exact (isSome_node? named disk).1 (by rw [node]; rfl)

theorem mem_paths_iff_any (disk : Disk) (path : Path) :
    disk.nodes.any (·.1 = path) = true ↔ path ∈ disk.paths := by
  simp [paths]

/-- What is put somewhere is there, since every entry of the path is replaced. -/
theorem node?_put_self {path : Path} (named : path ≠ []) (disk : Disk) (node : Node) :
    (disk.put path node).node? path = some node := by
  rw [node?_eq named, put]
  split_ifs with present
  · have found : ((disk.nodes.map fun entry =>
        if entry.1 = path then (path, node) else entry).find? (·.1 = path)).isSome = true := by
      obtain ⟨entry, mem, same⟩ := List.any_eq_true.1 present
      refine List.find?_isSome.2 ⟨(path, node), ?_, by simp⟩
      exact List.mem_map.2 ⟨entry, mem, if_pos (of_decide_eq_true same)⟩
    obtain ⟨entry, first⟩ := Option.isSome_iff_exists.1 found
    have same : entry.1 = path := by simpa using List.find?_some first
    obtain ⟨old, -, rfl⟩ := List.mem_map.1 (List.mem_of_find?_eq_some first)
    simp only [first, Option.map_some]
    split_ifs at same ⊢ with here
    · rfl
    · exact absurd same here
  · have none : disk.nodes.find? (·.1 = path) = none := by
      rw [List.find?_eq_none]
      intro entry mem same
      exact present (List.any_eq_true.2 ⟨entry, mem, same⟩)
    simp [List.find?_append, none]

/-- Nothing else changes. -/
theorem node?_put_of_ne {path other : Path} (ne : other ≠ path) (disk : Disk) (node : Node) :
    (disk.put path node).node? other = disk.node? other := by
  cases other with
  | nil => rfl
  | cons name rest =>
    rw [node?_eq (List.cons_ne_nil name rest), node?_eq (List.cons_ne_nil name rest), put]
    have apart : ¬ path = name :: rest := fun same => ne same.symm
    split_ifs with present
    · simp only [List.find?_map]
      have test : ((fun entry : Path × Node => decide (entry.1 = name :: rest)) ∘ fun entry =>
          if entry.1 = path then (path, node) else entry) =
            fun entry => decide (entry.1 = name :: rest) := by
        funext entry
        simp only [Function.comp]
        split_ifs with here
        · rw [here]
        · rfl
      rw [test, Option.map_map]
      apply Option.map_congr
      intro entry found
      have same : entry.1 = name :: rest := by simpa using List.find?_some found
      have elsewhere : ¬ entry.1 = path := fun here => ne (same.symm.trans here)
      simp [elsewhere]
    · simp [List.find?_append, apart]

theorem writes_put (disk : Disk) (path : Path) (node : Node) :
    (disk.put path node).writes = disk.writes := by
  rw [put]
  split_ifs <;> rfl

/-- Another path may come up, and none goes away. -/
theorem paths_put (disk : Disk) (path : Path) (node : Node) :
    (disk.put path node).paths =
      if path ∈ disk.paths then disk.paths else disk.paths ++ [path] := by
  rw [put]
  by_cases present : path ∈ disk.paths
  · rw [if_pos present, if_pos ((disk.mem_paths_iff_any path).2 present), paths, paths,
      List.map_map]
    apply List.map_congr_left
    intro entry mem
    simp only [Function.comp]
    split_ifs with here
    · exact here.symm
    · rfl
  · rw [if_neg present, if_neg fun any => present ((disk.mem_paths_iff_any path).1 any)]
    simp [paths]

/-- One file, and nothing else, is put on a disk. -/
structure Puts (disk : Disk) (path : Path) (content : Array UInt8) (next : Disk) : Prop where
  here : next.node? path = some (.file content)
  elsewhere : ∀ other, other ≠ path → next.node? other = disk.node? other

theorem puts_put {path : Path} (named : path ≠ []) (disk : Disk) (content : Array UInt8) :
    disk.Puts path content (disk.put path (.file content)) :=
  ⟨disk.node?_put_self named _, fun _ ne => disk.node?_put_of_ne ne _⟩

namespace Puts

variable {disk next : Disk} {path : Path} {content : Array UInt8}

theorem bytesAt (puts : disk.Puts path content next) : next.bytesAt path = content.toList :=
  bytesAt_of_content? (content?_eq_some.2 puts.here)

theorem bytesIn (puts : disk.Puts path content next) {files : List Path} (absent : path ∉ files) :
    next.bytesIn files = disk.bytesIn files :=
  List.flatMap_congr fun other mem =>
    bytesAt_congr (puts.elsewhere other fun same => absent (same ▸ mem))

end Puts

/-! ## Looking up -/

theorem ne_nil_of_locate {disk : Disk} {dir name : String} {path : Path}
    (h : disk.locate dir name = .ok path) : path ≠ [] := by
  rw [locate] at h
  split at h
  · cases h
  · split at h
    · cases h
    · split_ifs at h
      cases h
      exact List.append_ne_nil_of_right_ne_nil _ (List.cons_ne_nil name [])

/-- A file in a place where no directory was leaves the ways through directories as they are. -/
theorem Puts.enter {disk next : Disk} {path : Path} {content : Array UInt8}
    (puts : disk.Puts path content next) (free : disk.node? path ≠ some .directory)
    {here there : Path} {name : String} (h : disk.enter here name = .ok there) :
    next.enter here name = .ok there := by
  rw [Disk.enter] at h ⊢
  split_ifs at h ⊢
  · exact h
  · exact h
  · rcases node : disk.node? (here ++ [name]) with _ | _ | content <;> simp only [node] at h
    · cases h
    · have ne : here ++ [name] ≠ path := fun same => free (by rw [← same, node])
      rw [puts.elsewhere _ ne, node]
      exact h
    · cases h

theorem Puts.locate {disk next : Disk} {path : Path} {content : Array UInt8}
    (puts : disk.Puts path content next) (free : disk.node? path ≠ some .directory)
    {dir name : String} {place : Path} (h : disk.locate dir name = .ok place) :
    next.locate dir name = .ok place := by
  have walk (names : List String) (here there : Path)
      (h : names.foldlM disk.enter here = .ok there) :
      names.foldlM next.enter here = .ok there := by
    induction names generalizing here with
    | nil => exact h
    | cons name names ih =>
      rw [List.foldlM_cons] at h ⊢
      rcases entered : disk.enter here name with fault | inside
      · rw [entered] at h
        cases h
      · rw [entered] at h
        rw [puts.enter free entered]
        exact ih inside h
  rw [Disk.locate] at h ⊢
  split at h
  · cases h
  rcases found : disk.directory? dir with fault | inside <;> simp only [found] at h
  · cases h
  · rw [directory?] at found
    simp only [directory?, walk _ _ _ found]
    exact h

/-! ## Creating -/

/-- Creating a file that fails changes no node. -/
theorem create_error {disk next : Disk} {dir name : String} {fault : Fault}
    (h : disk.create dir name = (.error fault, next)) :
    next = { disk with creations := disk.creations.tail } := by
  rw [create] at h
  split at h
  · exact (congrArg Prod.snd h).symm
  · split at h
    · exact (congrArg Prod.snd h).symm
    · split_ifs at h
      · exact (congrArg Prod.snd h).symm
      · cases h

theorem create_ok {disk next : Disk} {dir name : String} {path : Path}
    (h : disk.create dir name = (.ok path, next)) :
    disk.locate dir name = .ok path ∧ disk.node? path ≠ some .directory ∧
      next = { disk with creations := disk.creations.tail }.put path (.file #[]) := by
  rw [create] at h
  split at h
  · cases h
  · split at h
    · cases h
    · rename_i located
      split_ifs at h with directory
      · cases h
      · cases h
        exact ⟨located, directory, rfl⟩

end Disk

end HttpFetch
