import Mathlib.Data.List.Nodup
import WheelInstaller.Install.Plan
import WheelInstaller.Proofs.Ordered
import WheelInstaller.Proofs.Path.Parents

/-! Where entries go. An accepted path has the names of its kept segments and lies below the root by
exactly these; a plan puts every entry there, and makes the directories in between. -/

namespace WheelInstaller

namespace RecordedPath

/-- The names that an accepted path is made of. -/
def names (recorded : String) : List String :=
  (keptSegments recorded.toList).map String.ofList

theorem isPlain_iff {path : Path} : isPlain path = true ↔ path.Plain := by
  have named (component : Component) : component.name?.isSome = true ↔ ∃ name, component = .name name := by
    cases component <;> simp [Component.name?]
  unfold isPlain Path.Plain
  rw [List.all_eq_true]
  exact forall₂_congr fun component _ => named component

theorem properName_of_kept {recorded : String} (forward : ['.', '.'] ∉ segments recorded.toList)
    {segment : List Char} (member : segment ∈ keptSegments recorded.toList) :
    ProperName (String.ofList segment) := by
  obtain ⟨inside, kept⟩ := List.mem_filter.mp member
  simp only [isKept, bne_iff_ne, ne_eq, Bool.and_eq_true] at kept
  have parent : segment ≠ ['.', '.'] := by
    rintro rfl
    exact forward inside
  refine ⟨?_, ?_, ?_, ?_⟩
  · exact fun same => kept.1 (String.ofList_injective same)
  · exact fun same => kept.2 (String.ofList_injective same)
  · exact fun same => parent (String.ofList_injective same)
  · simpa using Text.not_mem_of_mem_splitOn inside

theorem check_eq_ok {recorded : List Char} {kept : List (List Char)} : check recorded = .ok kept ↔
    '\x00' ∉ recorded ∧ (unify recorded).head? ≠ some '/' ∧ hasDrive (unify recorded) = false ∧
      ['.', '.'] ∉ segments recorded ∧ keptSegments recorded ≠ [] ∧ kept = keptSegments recorded := by
  unfold check
  split
  next nul => simp [List.contains_iff_mem.mp nul]
  next clean =>
  split
  next absolute => simp [absolute]
  next relative =>
  split
  next drive => simp [drive]
  next driveless =>
  split
  next upward => simp [List.contains_iff_mem.mp upward]
  next forward =>
  split
  next empty => simp [List.isEmpty_iff.mp empty]
  next filled =>
    simp only [List.contains_iff_mem, List.isEmpty_iff] at clean forward filled
    simp [clean, relative, driveless, forward, filled, eq_comm]

def relative (recorded : String) : Path :=
  ⟨String.ofList (Text.joinWith '/' (keptSegments recorded.toList))⟩

theorem components_relative {recorded : String} (forward : ['.', '.'] ∉ segments recorded.toList)
    (filled : keptSegments recorded.toList ≠ []) : (relative recorded).components = (names recorded).map .name := by
  have pieces : Text.splitOn '/' (relative recorded).text.toList = keptSegments recorded.toList := by
    unfold relative
    rw [String.toList_ofList]
    apply Text.splitOn_joinWith filled
    intro piece member
    exact Text.not_mem_of_mem_splitOn (List.mem_filter.mp member).1
  obtain ⟨first, rest, shape⟩ := List.exists_cons_of_ne_nil filled
  have kept : isKept first = true := by
    have member : first ∈ keptSegments recorded.toList := by simp [shape]
    exact (List.mem_filter.mp member).2
  simp only [isKept, bne_iff_ne, ne_eq, Bool.and_eq_true] at kept
  rw [(Path.components_of_open (pieces.trans shape) kept.1 kept.2).2, pieces]
  unfold names
  rw [List.map_map, ← List.filterMap_eq_map]
  apply List.filterMap_congr
  intro segment member
  have named := Component.ofSegment?_name (properName_of_kept forward member)
  rwa [String.toList_ofList] at named

theorem place_eq (root : Path) (recorded : String) : place root recorded =
    match check recorded.toList with
    | .error refusal => .error ⟨recorded, refusal⟩
    | .ok _ => .ok ⟨recorded, relative recorded, root.join (relative recorded)⟩ := by
  unfold place
  cases checked : check recorded.toList with
  | error refusal => rfl
  | ok kept =>
    obtain ⟨-, -, -, forward, filled, rfl⟩ := check_eq_ok.mp checked
    have components := components_relative forward filled
    have plain : (relative recorded).Plain := Path.plain_of_extends (Path.origin_extends.mpr components)
    have below : root.Extends (names recorded) (root.join (relative recorded)) :=
      Path.extends_join (Path.origin_extends.mpr components)
    have under : (root.join (relative recorded)).isStrictlyUnder root = true := by
      unfold Path.isStrictlyUnder
      rw [below.resolved]
      simpa [names, List.length_pos_iff] using filled
    change (if !isPlain (relative recorded) then _ else if (root.join (relative recorded)).isStrictlyUnder
      root then _ else _) = _
    rw [isPlain_iff.mpr plain, under]
    rfl

theorem place_eq_ok {root : Path} {recorded : String} {placed : PlacedPath} : place root recorded = .ok placed ↔
    (∃ kept, check recorded.toList = .ok kept) ∧
    placed = ⟨recorded, relative recorded, root.join (relative recorded)⟩ := by
  rw [place_eq]
  cases check recorded.toList with
  | error refusal => simp
  | ok kept => simp [eq_comm]

/-- An accepted path. -/
structure Accepted (root : Path) (recorded : String) (placed : PlacedPath) : Prop where
  named : names recorded ≠ []
  proper : ∀ name ∈ names recorded, ProperName name
  relative : placed.relative.components = (names recorded).map .name
  destination : root.Extends (names recorded) placed.destination

theorem accepted_of_place {root : Path} {recorded : String} {placed : PlacedPath}
    (accepted : place root recorded = .ok placed) : Accepted root recorded placed := by
  obtain ⟨⟨kept, checked⟩, rfl⟩ := place_eq_ok.mp accepted
  obtain ⟨-, -, -, forward, filled, -⟩ := check_eq_ok.mp checked
  have components := components_relative forward filled
  have proper : ∀ name ∈ names recorded, ProperName name := by
    intro name member
    obtain ⟨segment, inside, rfl⟩ := List.mem_map.mp member
    exact properName_of_kept forward inside
  refine ⟨by simpa [names] using filled, proper, ?_, ?_⟩
  · dsimp only
    exact components
  · dsimp only
    exact Path.extends_join (Path.origin_extends.mpr components)

end RecordedPath

namespace Path

theorem Extends.unique {base path : Path} {first second : List String} (one : base.Extends first path)
    (other : base.Extends second path) : first = second := by
  have same := List.append_cancel_left (one.symm.trans other)
  exact List.map_injective_iff.mpr (fun _ _ equal => Component.name.inj equal) same

theorem exists_of_mem_inOrder {path : Path} {paths : List Path} (member : path ∈ paths) :
    ∃ kept ∈ inOrder paths, kept.components = path.components := by
  have : Std.OrientedCmp fun first second : List Component × Path => orderComponents first.1 second.1 :=
    ⟨Std.OrientedCmp.eq_swap⟩
  have keyed : (path.components, path) ∈ paths.map fun path => (path.components, path) :=
    List.mem_map.mpr ⟨path, member, rfl⟩
  obtain ⟨⟨components, kept⟩, inside, same⟩ := Ordered.exists_of_mem_ofList
    (fun first second : List Component × Path => orderComponents first.1 second.1) keyed
  obtain ⟨found, present, pair⟩ := List.mem_map.mp (Ordered.mem_of_mem_ofList inside)
  cases pair
  refine ⟨kept, List.mem_map.mpr ⟨_, inside, rfl⟩, ?_⟩
  exact Std.LawfulEqCmp.eq_of_compare same

/-- Each path is less than all that follow it, so no components are there twice. -/
theorem ascending_inOrder (paths : List Path) :
    (inOrder paths).Pairwise fun first second => orderComponents first.components second.components = .lt := by
  have : Std.TransCmp fun first second : List Component × Path => orderComponents first.1 second.1 :=
    { eq_swap := Std.OrientedCmp.eq_swap, isLE_trans := Std.TransCmp.isLE_trans }
  have keyed {pair : List Component × Path}
    (member : pair ∈ Ordered.ofList (fun first second => orderComponents first.1 second.1)
      (paths.map fun path => (path.components, path))) : pair.1 = pair.2.components := by
    obtain ⟨path, -, rfl⟩ := List.mem_map.mp (Ordered.mem_of_mem_ofList member)
    rfl
  unfold inOrder
  rw [List.pairwise_map]
  refine (Ordered.ascending_ofList _).imp_of_mem fun first second less => ?_
  rwa [keyed first, keyed second] at less

theorem orderComponents_append (front rest : List Component) : orderComponents (front ++ rest) front ≠ .lt := by
  induction front with
  | nil => cases rest <;> simp [orderComponents, List.compareLex_nil_nil, List.compareLex_cons_nil]
  | cons component front ih =>
    have reflexive : Component.order component component = .eq := Std.ReflCmp.compare_self
    simpa [orderComponents, List.compareLex_cons_cons, reflexive] using ih

theorem mem_of_mem_inOrder {path : Path} {paths : List Path} (member : path ∈ inOrder paths) : path ∈ paths := by
  obtain ⟨pair, inside, rfl⟩ := List.mem_map.mp member
  obtain ⟨found, present, rfl⟩ := List.mem_map.mp (Ordered.mem_of_mem_ofList inside)
  exact present

theorem mem_components_inOrder {steps : List Component} {paths : List Path} :
    steps ∈ (inOrder paths).map components ↔ steps ∈ paths.map components := by
  simp only [List.mem_map]
  constructor
  · rintro ⟨path, member, rfl⟩
    exact ⟨path, mem_of_mem_inOrder member, rfl⟩
  · rintro ⟨path, member, rfl⟩
    exact exists_of_mem_inOrder member

end Path

namespace Install.Plan

open RecordedPath (names)

/-- A directory that entries need: one above an entry, or an entry of its own. -/
def Needed (entries : List Entry) (directory : List String) : Prop :=
  ∃ entry ∈ entries,
    (∃ count, 0 < count ∧ count < (names entry.path).length ∧ directory = (names entry.path).take count) ∨
    (entry.isDirectory ∧ directory = names entry.path)

/-- Where entries put files. -/
def Stored (entries : List Entry) (file : List String) : Prop :=
  ∃ entry ∈ entries, entry.isDirectory = false ∧ file = names entry.path

/-- What a plan for entries is. -/
structure Faithful (root : Path) (entries : List Entry) (plan : Plan) : Prop where
  named : ∀ entry ∈ entries, names entry.path ≠ []
  proper : ∀ entry ∈ entries, ∀ name ∈ names entry.path, ProperName name
  distinct : (entries.map fun entry => names entry.path).Nodup
  files : plan.files.map (·.1) = entries.filter fun entry => !entry.isDirectory
  destinations : ∀ file ∈ plan.files, root.Extends (names file.1.path) file.2
  directories : ∀ path ∈ plan.directories, ∃ directory, Needed entries directory ∧ root.Extends directory path
  complete : ∀ directory, Needed entries directory → ∃ path ∈ plan.directories, root.Extends directory path
  apart : ∀ entry ∈ entries, entry.isDirectory = false → ¬ Needed entries (names entry.path)

/-- Entries with their destinations. -/
structure Placed (root : Path) (entries : List Entry) (placed : List (Entry × Path)) : Prop where
  entries : placed.map (·.1) = entries
  targets : ∀ pair ∈ placed, ∃ target, RecordedPath.place root pair.1.path = .ok target ∧ target.destination = pair.2
  distinct : (placed.map fun pair => pair.2.components).Nodup

theorem Placed.accepted {root : Path} {entries : List Entry} {placed : List (Entry × Path)}
    (good : Placed root entries placed) :
    ∀ pair ∈ placed, names pair.1.path ≠ [] ∧ (∀ name ∈ names pair.1.path, ProperName name) ∧
      root.Extends (names pair.1.path) pair.2 := by
  intro pair member
  obtain ⟨target, found, same⟩ := good.targets pair member
  have accepted := RecordedPath.accepted_of_place found
  exact ⟨accepted.named, accepted.proper, same ▸ accepted.destination⟩

theorem placed_of_placeAll {archive root : Path} {entries : List Entry} {taken : List (List Component × String)}
    {placed : List (Entry × Path)} (done : placeAll archive root taken entries = .ok placed) :
    Placed root entries placed ∧ ∀ pair ∈ placed, ∀ known ∈ taken, known.1 ≠ pair.2.components := by
  induction entries generalizing taken placed with
  | nil =>
    cases done
    exact ⟨⟨rfl, by simp, by simp⟩, by simp⟩
  | cons entry rest ih =>
    simp only [placeAll, bind, Except.bind] at done
    split at done; · cases done
    next target accepted =>
    cases found : RecordedPath.place root entry.path with
    | error error =>
      rw [found] at accepted
      cases accepted
    | ok target =>
      rw [found] at accepted
      cases accepted
      split at done
      · cases done
      next free =>
        split at done; · cases done
        next others placed =>
        cases done
        -- What is placed later avoids everything taken before, this destination included.
        obtain ⟨inner, apart⟩ := ih placed
        refine ⟨⟨by simp [inner.entries], ?_, ?_⟩, ?_⟩
        · intro pair member
          rcases List.mem_cons.mp member with rfl | member
          · exact ⟨target, found, rfl⟩
          · exact inner.targets pair member
        · refine List.nodup_cons.mpr ⟨fun repeated => ?_, inner.distinct⟩
          obtain ⟨pair, member, same⟩ := List.mem_map.mp repeated
          exact apart pair member _ (List.mem_cons_self ..) same.symm
        · intro pair member known inside
          rcases List.mem_cons.mp member with rfl | member
          · simpa using List.find?_eq_none.mp free known inside
          · exact apart pair member known (List.mem_cons_of_mem _ inside)

/-- The directories that one entry needs, whatever is said of the others. -/
theorem exists_directoriesFor {root destination : Path} {entry : Entry}
    (below : root.Extends (names entry.path) destination) (some : names entry.path ≠ []) (components : List Component) :
    (∃ path ∈ directoriesFor root entry destination, path.components = components) ↔
    ∃ directory, Needed [entry] directory ∧ components = root.components ++ directory.map .name := by
  simp only [directoriesFor, List.mem_append, or_and_right, exists_or, directoriesAbove,
    Path.exists_between_iff below some components]
  constructor
  · rintro (⟨count, positive, few, rfl⟩ | ⟨path, member, rfl⟩)
    · exact ⟨_, ⟨entry, by simp, .inl ⟨count, positive, few, rfl⟩⟩, rfl⟩
    · split at member
      next directory =>
        rw [List.mem_singleton.mp member]
        exact ⟨_, ⟨entry, by simp, .inr ⟨directory, rfl⟩⟩, below⟩
      next => simp at member
  · rintro ⟨directory, ⟨found, member, needed⟩, rfl⟩
    cases List.mem_singleton.mp member
    rcases needed with ⟨count, positive, few, rfl⟩ | ⟨isDirectory, rfl⟩
    · exact .inl ⟨count, positive, few, rfl⟩
    · exact .inr ⟨destination, by simp [isDirectory], below⟩

theorem Needed.of_mem {entries : List Entry} {entry : Entry} {directory : List String} (member : entry ∈ entries)
    (needed : Needed [entry] directory) : Needed entries directory := by
  obtain ⟨found, only, needed⟩ := needed
  cases List.mem_singleton.mp only
  exact ⟨entry, member, needed⟩

theorem Placed.exists_mem {root : Path} {entries : List Entry} {placed : List (Entry × Path)}
    (good : Placed root entries placed)
    {entry : Entry} (member : entry ∈ entries) : ∃ destination, (entry, destination) ∈ placed := by
  rw [← good.entries] at member
  obtain ⟨⟨found, destination⟩, inside, rfl⟩ := List.mem_map.mp member
  exact ⟨destination, inside⟩

theorem Placed.exists_directory {root : Path} {entries : List Entry} {placed : List (Entry × Path)}
    (good : Placed root entries placed)
    (components : List Component) : (∃ path ∈ (ofPlaced root placed).directories, path.components = components) ↔
      ∃ directory, Needed entries directory ∧ components = root.components ++ directory.map .name := by
  constructor
  · rintro ⟨path, member, same⟩
    obtain ⟨⟨entry, destination⟩, inside, made⟩ := List.mem_flatMap.mp (Path.mem_of_mem_inOrder member)
    obtain ⟨filled, -, below⟩ := good.accepted _ inside
    obtain ⟨directory, needed, further⟩ := (exists_directoriesFor below filled _).mp ⟨path, made, same⟩
    have present : entry ∈ entries := by
      rw [← good.entries]
      exact List.mem_map.mpr ⟨_, inside, rfl⟩
    exact ⟨directory, needed.of_mem present, further⟩
  · rintro ⟨directory, ⟨entry, member, needed⟩, same⟩
    obtain ⟨destination, inside⟩ := good.exists_mem member
    obtain ⟨filled, -, below⟩ := good.accepted _ inside
    obtain ⟨path, made, further⟩ := (exists_directoriesFor below filled _).mpr
      ⟨directory, ⟨entry, by simp, needed⟩, same⟩
    have listed : path ∈ placed.flatMap fun planned => directoriesFor root planned.1 planned.2 :=
      List.mem_flatMap.mpr ⟨_, inside, made⟩
    obtain ⟨kept, present, equal⟩ := Path.exists_of_mem_inOrder listed
    exact ⟨kept, present, equal.trans further⟩

theorem Placed.distinct_names {root : Path} {entries : List Entry} {placed : List (Entry × Path)}
    (good : Placed root entries placed) :
    (entries.map fun entry => names entry.path).Nodup := by
  apply List.Nodup.of_map fun directory => root.components ++ directory.map Component.name
  rw [← good.entries, List.map_map, List.map_map]
  convert good.distinct using 1
  exact List.map_congr_left fun pair member => (good.accepted pair member).2.2.symm

theorem faithful_ofPlaced {root : Path} {entries : List Entry} {placed : List (Entry × Path)}
    (good : Placed root entries placed)
    (free : ∀ file ∈ (ofPlaced root placed).files, ∀ path ∈ (ofPlaced root placed).directories,
      path.components ≠ file.2.components) : Faithful root entries (ofPlaced root placed) := by
  have complete (directory : List String) (needed : Needed entries directory) :
      ∃ path ∈ (ofPlaced root placed).directories, root.Extends directory path :=
    (good.exists_directory _).mpr ⟨directory, needed, rfl⟩
  refine ⟨?_, ?_, good.distinct_names, ?_, ?_, ?_, complete, ?_⟩
  · intro entry member
    obtain ⟨destination, inside⟩ := good.exists_mem member
    exact (good.accepted _ inside).1
  · intro entry member
    obtain ⟨destination, inside⟩ := good.exists_mem member
    exact (good.accepted _ inside).2.1
  · rw [← good.entries, List.filter_map]
    rfl
  · exact fun file member => (good.accepted file (List.mem_filter.mp member).1).2.2
  · intro path member
    exact (good.exists_directory _).mp ⟨path, member, rfl⟩
  · intro entry member isFile needed
    obtain ⟨destination, inside⟩ := good.exists_mem member
    obtain ⟨path, present, below⟩ := complete _ needed
    exact free (entry, destination) (List.mem_filter.mpr ⟨inside, by simp [isFile]⟩) path present
      (Eq.trans below (good.accepted _ inside).2.2.symm)

section

variable {root : Path} {entries : List Entry} {plan : Plan} (faithful : plan.Faithful root entries)
include faithful

theorem Faithful.mem_entries {pair : Entry × Path} (planned : pair ∈ plan.files) :
    pair.1 ∈ entries ∧ pair.1.isDirectory = false := by
  have mapped : pair.1 ∈ plan.files.map (·.1) := List.mem_map_of_mem planned
  rw [faithful.files] at mapped
  simpa using mapped

theorem Faithful.exists_planned {entry : Entry} (member : entry ∈ entries) (isFile : entry.isDirectory = false) :
    ∃ path, (entry, path) ∈ plan.files := by
  have listed : entry ∈ plan.files.map (·.1) := by
    rw [faithful.files]
    simpa using ⟨member, isFile⟩
  obtain ⟨⟨_, path⟩, planned, rfl⟩ := List.mem_map.mp listed
  exact ⟨path, planned⟩

/-- The directories that are made for a plan are that of all entries and those that they need. -/
theorem Faithful.exists_extends {path : Path} (which : path = root ∨ path ∈ plan.directories) :
    ∃ directory, (directory = [] ∨ Needed entries directory) ∧ root.Extends directory path := by
  rcases which with rfl | planned
  · exact ⟨[], .inl rfl, .refl path⟩
  · obtain ⟨directory, needed, below⟩ := faithful.directories path planned
    exact ⟨directory, .inr needed, below⟩

theorem Faithful.nodup_names : (plan.files.map fun pair => names pair.1.path).Nodup := by
  have listed : plan.files.map (fun pair => names pair.1.path) =
      (entries.filter fun entry => !entry.isDirectory).map fun entry => names entry.path := by
    rw [← faithful.files, List.map_map]
    rfl
  rw [listed]
  exact faithful.distinct.sublist (List.filter_sublist.map _)

theorem Faithful.below {path : Path} {entry : Entry} (planned : (entry, path) ∈ plan.files) :
    ∃ names, names ≠ [] ∧ root.Extends names path :=
  ⟨names entry.path, faithful.named entry (faithful.mem_entries planned).1, faithful.destinations (entry, path) planned⟩

end

theorem checkFiles_eq_ok {archive : Path} {plan checked : Plan} : checkFiles archive plan = .ok checked ↔
    (∀ file ∈ plan.files, ∀ path ∈ plan.directories, path.components ≠ file.2.components) ∧ checked = plan := by
  have free : (plan.files.find? fun file => (plan.directories.map Path.components).contains file.2.components) = none ↔
      ∀ file ∈ plan.files, ∀ path ∈ plan.directories, path.components ≠ file.2.components := by
    simp [List.find?_eq_none]
  unfold checkFiles
  dsimp only
  split
  next found =>
    constructor
    · nofun
    · rintro ⟨clear, -⟩
      cases found.symm.trans (free.mpr clear)
  next none =>
    constructor
    · intro same
      cases same
      exact ⟨free.mp none, rfl⟩
    · rintro ⟨-, rfl⟩
      rfl

theorem build_eq_ok {archive root : Path} {entries : List Entry} {plan : Plan} : build archive root entries = .ok plan ↔
    ∃ placed, placeAll archive root [] entries = .ok placed ∧ checkFiles archive (ofPlaced root placed) = .ok plan := by
  unfold build
  cases placeAll archive root [] entries with
  | error => simp [bind, Except.bind]
  | ok placed => simp [bind, Except.bind]

theorem faithful_of_build {archive root : Path} {entries : List Entry} {plan : Plan}
    (built : build archive root entries = .ok plan) : Faithful root entries plan := by
  obtain ⟨placed, done, checked⟩ := build_eq_ok.mp built
  obtain ⟨free, rfl⟩ := checkFiles_eq_ok.mp checked
  exact faithful_ofPlaced (placed_of_placeAll done).1 free

end Install.Plan
end WheelInstaller
