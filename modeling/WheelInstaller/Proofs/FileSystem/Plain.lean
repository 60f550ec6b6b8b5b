import WheelInstaller.FileSystem.Basic
import WheelInstaller.Proofs.FileSystem.Tree
import WheelInstaller.Proofs.Ordered

/-! File systems without links, by what is at their locations. Every directory on the way to an
occupied location is there; changing a location leaves all others as they are. -/

namespace WheelInstaller.FileSystem

open WheelInstaller.Tree (Open)

/-- A file system without links. -/
structure Plain (files : FileSystem) : Prop where
  sound : files.top.Sound
  top : files.top.node = .directory

variable {files : FileSystem} {location other rest : Location} {name : String}

theorem get?_eq_some {node : Node} :
    files.get? location = some node ↔ ∃ tree, files.top.find? location = some tree ∧ tree.node = node := by
  simp [get?]

theorem get?_eq_directory :
    files.get? location = some .directory ↔ ∃ children, files.top.find? location = some (.directory children) := by
  rw [get?_eq_some]
  constructor
  · rintro ⟨tree, found, same⟩
    obtain ⟨children, rfl⟩ := Tree.node_eq_directory.mp same
    exact ⟨children, found⟩
  · rintro ⟨children, found⟩
    exact ⟨_, found, rfl⟩

theorem get?_ne_none : files.get? location ≠ none ↔ ∃ tree, files.top.find? location = some tree := by
  simp [get?, Option.ne_none_iff_exists']

theorem get?_above (occupied : files.get? (location ++ rest) ≠ none) (further : rest ≠ []) :
    files.get? location = some .directory := by
  obtain ⟨tree, found⟩ := get?_ne_none.mp occupied
  obtain ⟨first, others, rfl⟩ := List.exists_cons_of_ne_nil further
  rw [Tree.find?_append] at found
  obtain ⟨above, here, found⟩ := Option.bind_eq_some_iff.mp found
  obtain ⟨inner, child, -⟩ := Option.bind_eq_some_iff.mp found
  obtain ⟨children, rfl⟩ := Tree.isDirectory_of_child? child
  exact get?_eq_directory.mpr ⟨children, here⟩

theorem get?_below (vacant : files.get? location ≠ some .directory) (further : rest ≠ []) :
    files.get? (location ++ rest) = none := by
  by_contra occupied
  exact vacant (get?_above occupied further)

theorem mem_children : name ∈ files.children location ↔ files.get? (location ++ [name]) ≠ none := by
  unfold children
  rw [get?_ne_none, Tree.find?_append]
  split
  next absent => simp [absent]
  next tree found =>
    rw [Ordered.mem_ofList, found, Option.bind_some]
    have only : tree.find? [name] = tree.child? name := by simp [Tree.find?]
    rw [only, ← Option.ne_none_iff_exists', ← not_iff_not, not_not, Tree.child?_eq_none]

theorem nodup_children (files : FileSystem) (location : Location) : (files.children location).Nodup := by
  unfold children
  split
  next => exact .nil
  next tree found => exact (Ordered.ascending_ofList _).imp fun less same => by simp [same] at less

theorem open_of_get? (occupied : files.get? location ≠ none) : files.top.Open location := by
  rintro directory name rfl
  exact get?_eq_directory.mp (get?_above occupied (by simp))

namespace Plain

variable (plain : files.Plain)
include plain

theorem get?_top : files.get? [] = some .directory := by
  simp [get?, Tree.find?, plain.top]

theorem proper (occupied : files.get? location ≠ none) : ∀ name ∈ location, ProperName name := by
  obtain ⟨tree, found⟩ := get?_ne_none.mp occupied
  exact (plain.sound.find? found).1

theorem not_link {target : Path} : files.get? location ≠ some (.link target) := by
  intro found
  obtain ⟨tree, found, same⟩ := get?_eq_some.mp found
  cases (plain.sound.find? found).2 <;> cases same

end Plain

/-- A place for something below the top, in a directory that is there. -/
structure Room (files : FileSystem) (location : Location) : Prop where
  exists_directory : ∃ directory name, location = directory ++ [name] ∧ files.get? directory = some .directory
  proper : ∀ name ∈ location, ProperName name

namespace Room

theorem of_get? (plain : files.Plain) (occupied : files.get? location ≠ none) (below : location ≠ []) :
    files.Room location := by
  obtain ⟨directory, name, rfl⟩ := (List.eq_nil_or_concat' location).resolve_left below
  exact ⟨⟨directory, name, rfl, get?_above occupied (by simp)⟩, plain.proper occupied⟩

theorem in_directory (plain : files.Plain) {directory : Location} (found : files.get? directory = some .directory)
    (proper : ProperName name) : files.Room (directory ++ [name]) := by
  refine ⟨⟨directory, name, rfl, found⟩, fun other member => ?_⟩
  rcases List.mem_append.mp member with member | member
  · exact plain.proper (by simp [found]) other member
  · rwa [List.mem_singleton.mp member]

variable (room : files.Room location)
include room

theorem ne_nil : location ≠ [] := by
  obtain ⟨⟨directory, name, rfl, -⟩, -⟩ := room
  simp

theorem toOpen : files.top.Open location := by
  rintro directory name split
  obtain ⟨⟨known, last, same, found⟩, -⟩ := room
  obtain ⟨rfl, -⟩ := List.append_inj' (same.symm.trans split) rfl
  exact get?_eq_directory.mp found

end Room

/-! What a change of one location does to what is found. -/

@[simp] theorem alter_home (change : Option Tree → Option Tree) : (files.alter location change).home = files.home := rfl

theorem alter_top {change : Option Tree → Option Tree} {tree : Tree}
    (done : Tree.alter change location (some files.top) = some tree) : (files.alter location change).top = tree := by
  simp [alter, done]

theorem exists_alter (change : Option Tree → Option Tree) (tree : Tree) (below : location ≠ []) :
    ∃ result, Tree.alter change location (some tree) = some result ∧ result.node = tree.node := by
  obtain ⟨first, others, rfl⟩ := List.exists_cons_of_ne_nil below
  cases tree <;> exact ⟨_, rfl, rfl⟩

theorem get?_alter_of {change : Option Tree → Option Tree} (kept : files.top.Distinct ∨ ∀ found, (change found).isSome)
    (below : location ≠ []) (holds : files.top.Open location) (other : Location) :
    (files.alter location change).get? other =
      if location <+: other then
        ((change (files.top.find? location)).bind (Tree.find? (other.drop location.length))).map Tree.node
      else files.get? other := by
  obtain ⟨result, done, -⟩ := exists_alter change files.top below
  have spec := Tree.find?_alter_of kept holds other
  rw [done, Option.bind_some] at spec
  rw [get?, alter_top done, spec]
  rfl

theorem Plain.alter (plain : files.Plain) (below : location ≠ []) (proper : ∀ name ∈ location, ProperName name)
    (holds : files.top.Open location) {change : Option Tree → Option Tree}
    (changed : ∀ inner, change (files.top.find? location) = some inner → inner.Sound) :
    (files.alter location change).Plain := by
  obtain ⟨result, done, same⟩ := exists_alter change files.top below
  constructor
  · rw [alter_top done]
    exact Tree.sound_alter plain.sound proper holds changed done
  · rw [alter_top done, same, plain.top]

/-! Putting, taking away and moving. -/

@[simp] theorem put_home (node : Node) : (files.put location node).home = files.home := rfl

theorem find?_ofNode (node : Node) (above : location <+: other) :
    ((Tree.ofNode node).find? (other.drop location.length)).map Tree.node =
      if other = location then some node else none := by
  obtain ⟨rest, rfl⟩ := above
  rw [List.drop_left]
  cases rest with
  | nil => simp [Tree.find?]
  | cons name rest => simp [Tree.find?, Tree.child?_ofNode]

theorem get?_put_in {directory : Location} (found : files.get? directory = some .directory)
    (free : files.get? (directory ++ [name]) ≠ some .directory) (node : Node) (other : Location) :
    (files.put (directory ++ [name]) node).get? other =
      if other = directory ++ [name] then some node else files.get? other := by
  have holds : files.top.Open (directory ++ [name]) := by
    rintro above last split
    obtain ⟨rfl, -⟩ := List.append_inj' split rfl
    exact get?_eq_directory.mp found
  rw [put, get?_alter_of (.inr fun _ => rfl) (by simp) holds, Option.bind_some]
  split
  next above =>
    rw [find?_ofNode node above]
    split
    · rfl
    next different =>
      obtain ⟨rest, rfl⟩ := above
      exact (get?_below free fun same => different (by simp [same])).symm
  next apart =>
    rw [if_neg]
    rintro rfl
    exact apart (List.prefix_refl _)

theorem get?_put (room : files.Room location) (free : files.get? location ≠ some .directory)
    (node : Node) (other : Location) :
    (files.put location node).get? other = if other = location then some node else files.get? other := by
  obtain ⟨⟨directory, name, rfl, found⟩, -⟩ := room
  exact get?_put_in found free node other

theorem sound_ofNode {node : Node} (plain : ∀ target, node ≠ .link target) : (Tree.ofNode node).Sound := by
  cases node with
  | directory => exact .directory (by simp) (by simp) (by simp)
  | file mode content => exact .file mode content
  | link target => exact absurd rfl (plain target)

theorem Plain.put (plain : files.Plain) (room : files.Room location) {node : Node}
    (noLink : ∀ target, node ≠ .link target) : (files.put location node).Plain := by
  refine plain.alter room.ne_nil room.proper room.toOpen fun inner same => ?_
  cases same
  exact sound_ofNode noLink

@[simp] theorem erase_home : (files.erase location).home = files.home := rfl

theorem get?_erase_of (distinct : files.top.Distinct) (below : location ≠ []) (holds : files.top.Open location)
    (other : Location) :
    (files.erase location).get? other = if location <+: other then none else files.get? other := by
  rw [erase, get?_alter_of (.inl distinct) below holds]
  rfl

theorem get?_erase (plain : files.Plain) (room : files.Room location) (other : Location) :
    (files.erase location).get? other = if location <+: other then none else files.get? other :=
  get?_erase_of plain.sound.distinct room.ne_nil room.toOpen other

theorem Plain.erase (plain : files.Plain) (room : files.Room location) : (files.erase location).Plain :=
  plain.alter room.ne_nil room.proper room.toOpen (by simp)

@[simp] theorem move_home (files : FileSystem) (source target : Location) :
    (files.move source target).home = files.home := by
  unfold move
  split <;> rfl

@[simp] theorem clear_home : (files.clear location).home = files.home := rfl

theorem get?_clear_of (distinct : files.top.Distinct) (below : location ≠ []) (occupied : files.get? location ≠ none)
    (other : Location) :
    (files.clear location).get? other =
      if location <+: other ∧ other ≠ location then none else files.get? other := by
  obtain ⟨tree, found⟩ := get?_ne_none.mp occupied
  rw [clear, get?_alter_of (.inl distinct) below (open_of_get? occupied), found, Option.map_some, Option.bind_some]
  split
  next above =>
    rw [find?_ofNode tree.node above]
    by_cases same : other = location
    · subst same
      simp [get?, found]
    · simp [above, same]
  next apart => simp [apart]

theorem get?_clear (plain : files.Plain) (below : location ≠ []) (occupied : files.get? location ≠ none)
    (other : Location) :
    (files.clear location).get? other =
      if location <+: other ∧ other ≠ location then none else files.get? other :=
  get?_clear_of plain.sound.distinct below occupied other

theorem Plain.clear (plain : files.Plain) (below : location ≠ []) (found : files.get? location = some .directory) :
    (files.clear location).Plain := by
  obtain ⟨children, tree⟩ := get?_eq_directory.mp found
  have occupied : files.get? location ≠ none := by simp [found]
  refine plain.alter below (plain.proper occupied) (open_of_get? occupied) fun inner same => ?_
  rw [tree] at same
  cases same
  exact .directory (by simp) (by simp) (by simp)

end WheelInstaller.FileSystem
