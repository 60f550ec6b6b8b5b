import WheelInstaller.Proofs.Packages.Initializer
import WheelInstaller.Proofs.Path.Spelling

/-! Snapshots of a tree. All that show the directories to be looked into as they are agree on the packages. -/

namespace WheelInstaller

open Packages (isIgnored)

variable {file directory : List String → Prop} {names target : List String} {name : String}

/-- The listing tells what is directly in a directory. -/
structure Listing.Shows (file directory : List String → Prop) (names : List String) (listing : Listing) : Prop where
  files : ∀ name, name ∈ listing.files ↔ file (names ++ [name])
  directories : ∀ name, name ∈ listing.directories ↔ directory (names ++ [name])

/-- The directories that a look into one of them comes to. -/
inductive Packages.Seen (directory : List String → Prop) : List String → List String → Prop where
  | here (names : List String) : Seen directory names names
  | inner {names target : List String} {name : String} (found : directory (names ++ [name]))
    (seen : isIgnored name = false)
      (further : Seen directory (names ++ [name]) target) : Seen directory names target

open Packages (Seen)

theorem Packages.seen_iff : Seen directory names target ↔
    target = names ∨ ∃ name, directory (names ++ [name]) ∧ isIgnored name = false ∧
    Seen directory (names ++ [name]) target := by
  constructor
  · intro seen
    cases seen with
    | here => exact .inl rfl
    | inner found open_ further => exact .inr ⟨_, found, open_, further⟩
  · rintro (rfl | ⟨name, found, open_, further⟩)
    · exact .here _
    · exact .inner found open_ further

theorem Packages.Seen.concat (seen : Seen directory names target) (found : directory (target ++ [name]))
    (open_ : isIgnored name = false) : Seen directory names (target ++ [name]) := by
  induction seen with
  | here => exact .inner found open_ (.here _)
  | inner outer seen _ ih => exact .inner outer seen (ih found)

theorem Packages.Seen.imp {inner : List String → Prop} (seen : Seen inner names target)
    (implies : ∀ names, names ≠ [] → inner names → directory names) : Seen directory names target := by
  induction seen with
  | here => exact .here _
  | inner found open_ _ ih => exact .inner (implies _ (by simp) found) open_ ih

theorem Packages.Seen.eq_or (seen : Seen directory names target) : target = names ∨ directory target := by
  induction seen with
  | here => exact .inl rfl
  | inner found _ _ ih =>
    rcases ih with rfl | there
    · exact .inr found
    · exact .inr there

namespace Snapshot

variable {snapshot other : Snapshot}

/-- The snapshot shows every directory that is looked into. -/
def Depicts (file directory : List String → Prop) (snapshot : Snapshot) : Prop :=
  ∀ names, Seen directory [] names → ∃ listing, snapshot.at? names = some listing ∧ listing.Shows file directory names

section Depicting

variable (depicts : snapshot.Depicts file directory)
include depicts

theorem Depicts.visits_iff (seen : Seen directory [] names) : snapshot.Visits names target ↔
    Seen directory names target := by
  constructor
  · intro visits
    induction visits with
    | here => exact .here _
    | inner listed found open_ _ ih =>
      obtain ⟨listing, known, shows⟩ := depicts _ seen
      cases listed.symm.trans known
      have inside := (shows.directories _).mp found
      exact .inner inside open_ (ih (seen.concat inside open_))
  · intro further
    induction further with
    | here => exact .here _
    | inner inside open_ _ ih =>
      obtain ⟨listing, listed, shows⟩ := depicts _ seen
      exact .inner listed ((shows.directories _).mpr inside) open_ (ih (seen.concat inside open_))

theorem Depicts.congr {others inner : List String → Prop} (files : ∀ names, names ≠ [] → (others names ↔ file names))
    (directories : ∀ names, names ≠ [] → (inner names ↔ directory names)) : snapshot.Depicts others inner := by
  intro names seen
  obtain ⟨listing, listed, shows⟩ := depicts names (seen.imp fun names some => (directories names some).mp)
  refine ⟨listing, listed, fun name => ?_, fun name => ?_⟩
  · rw [shows.files, files _ (by simp)]
  · rw [shows.directories, directories _ (by simp)]

theorem IsPackage.transfer (also : other.Depicts file directory) (seen : Seen directory [] names)
    (package : snapshot.IsPackage names) : other.IsPackage names := by
  induction package with
  | initializer below listed found =>
    obtain ⟨listing, known, shows⟩ := depicts _ seen
    obtain ⟨listing', known', shows'⟩ := also _ seen
    cases listed.symm.trans known
    exact .initializer below known' ((shows'.files _).mpr ((shows.files _).mp found))
  | module below listed found importable =>
    obtain ⟨listing, known, shows⟩ := depicts _ seen
    obtain ⟨listing', known', shows'⟩ := also _ seen
    cases listed.symm.trans known
    exact .module below known' ((shows'.files _).mpr ((shows.files _).mp found)) importable
  | inner below listed found open_ _ ih =>
    obtain ⟨listing, known, shows⟩ := depicts _ seen
    obtain ⟨listing', known', shows'⟩ := also _ seen
    cases listed.symm.trans known
    have inside := (shows.directories _).mp found
    exact .inner below known' ((shows'.directories _).mpr inside) open_ (ih (seen.concat inside open_))

theorem Lacks.transfer (also : other.Depicts file directory) (seen : Seen directory [] names)
    (lacks : snapshot.Lacks names) : other.Lacks names := by
  obtain ⟨package, listing, listed, absent⟩ := lacks
  obtain ⟨_, known, shows⟩ := depicts _ seen
  obtain ⟨listing', known', shows'⟩ := also _ seen
  cases listed.symm.trans known
  exact ⟨package.transfer depicts also seen, listing', known', fun member =>
    absent ((shows.files _).mpr ((shows'.files _).mp member))⟩

end Depicting

end Snapshot
end WheelInstaller

/-! ### Planned directories

The directories that a plan gives initializers to. The plan spells their paths name by name, and once
the initializers are there, a plan for the same tree has nothing left to create.
-/

namespace WheelInstaller.Snapshot

open Packages (isIgnored initializerName Seen properName_initializer)

variable {snapshot later : Snapshot} {front names target : List String} {file directory : List String → Prop}

/-- The initializer of a directory below the root. -/
def initializerOf (target : List String) : Path :=
  Path.origin.under (target ++ [initializerName])

theorem exists_of_mem_mapM {α β : Type} {f : α → Option β} {items : List α} {results : List β} {result : β}
    (done : items.mapM f = some results) (member : result ∈ results) : ∃ item ∈ items, f item = some result := by
  induction items generalizing results with
  | nil =>
    cases done
    cases member
  | cons item rest ih =>
    rw [List.mapM_cons] at done
    obtain ⟨first, found, done⟩ := Option.bind_eq_some_iff.mp done
    obtain ⟨others, further, done⟩ := Option.bind_eq_some_iff.mp done
    cases done
    rcases List.mem_cons.mp member with rfl | member
    · exact ⟨item, by simp, found⟩
    · obtain ⟨other, inside, same⟩ := ih further member
      exact ⟨other, by simp [inside], same⟩

theorem exists_map_eq {α β : Type} {f : α → β} {good : α → Prop} {items : List β}
    (each : ∀ item ∈ items, ∃ source, good source ∧ item = f source) :
    ∃ sources : List α, items = sources.map f ∧ ∀ source ∈ sources, good source := by
  induction items with
  | nil => exact ⟨[], rfl, by simp⟩
  | cons item rest ih =>
    obtain ⟨source, known, rfl⟩ := each item (by simp)
    obtain ⟨sources, rfl, others⟩ := ih fun other member => each other (by simp [member])
    exact ⟨source :: sources, rfl, by simpa using ⟨known, others⟩⟩

theorem mem_lacking_conclude {path directory : Path} {listing : Listing} {children : List Visit}
    (member : path ∈ (conclude directory listing children).lacking) : path = directory ∨ ∃ child ∈ children,
    path ∈ child.lacking := by
  have below (member : path ∈ children.flatMap (·.lacking)) : path = directory ∨
    ∃ child ∈ children, path ∈ child.lacking :=
    .inr (List.mem_flatMap.mp member)
  unfold conclude at member
  dsimp only at member
  split at member
  · exact below member
  · split at member
    · rcases List.mem_append.mp member with inside | here
      · exact below inside
      · exact .inl (List.mem_singleton.mp here)
    · exact below member

theorem spelled_of_visit (proper : snapshot.Proper) {depth : Nat} {visit : Visit}
    (named : ∀ name ∈ front, ProperName name)
    (visited : snapshot.visit depth (Path.origin.under front) = some visit) :
    ∀ path ∈ visit.lacking, ∃ target, (∀ name ∈ target, ProperName name) ∧ path = Path.origin.under target := by
  induction depth generalizing front visit with
  | zero =>
    unfold Snapshot.visit at visited
    split at visited
    · cases visited
      simp
    · cases visited
  | succ depth ih =>
    intro path member
    unfold Snapshot.visit at visited
    split at visited
    · cases visited
      cases member
    next listing listed =>
      rw [listing?_eq (Path.extends_under named)] at listed
      obtain ⟨children, mapped, same⟩ := Option.bind_eq_some_iff.mp visited
      cases same
      rcases mem_lacking_conclude member with rfl | ⟨child, inside, lacking⟩
      · exact ⟨front, named, rfl⟩
      · obtain ⟨name, inner, found⟩ := exists_of_mem_mapM mapped inside
        have here : ProperName name := proper front listing listed name (List.mem_filter.mp inner).1
        have all : ∀ other ∈ front ++ [name], ProperName other := by simpa [or_imp, forall_and] using ⟨named, here⟩
        rw [← Path.under_concat] at found
        exact ih all found path lacking

theorem exists_targets (proper : snapshot.Proper) : ∃ targets : List (List String),
    snapshot.plan? false = some (targets.map initializerOf) ∧ (∀ target ∈ targets, ∀ name ∈ target, ProperName name) ∧
      ∀ target, target ∈ targets ↔ snapshot.Visits [] target ∧ snapshot.Lacks target := by
  obtain ⟨paths, planned, exactly, -⟩ := exists_plan? proper
  have each : ∀ path ∈ paths, ∃ target, (∀ name ∈ target, ProperName name) ∧ path = initializerOf target := by
    intro path member
    obtain ⟨visit, visited, same⟩ := Option.bind_eq_some_iff.mp planned
    cases same
    obtain ⟨directory, inside, rfl⟩ := List.mem_map.mp member
    obtain ⟨target, named, rfl⟩ := spelled_of_visit proper (List.forall_mem_nil _) visited directory
      (Path.mem_of_mem_inOrder inside)
    exact ⟨target, named, Path.under_concat.symm⟩
  obtain ⟨targets, rfl, named⟩ := exists_map_eq each
  have spelled {target : List String} (named : ∀ name ∈ target, ProperName name) :
      Path.origin.Extends (target ++ [initializerName]) (initializerOf target) :=
    Path.extends_under (by simpa [or_imp, forall_and] using ⟨named, properName_initializer⟩)
  refine ⟨targets, planned, named, ?_⟩
  intro target
  constructor
  · intro member
    obtain ⟨other, same, lacks⟩ := (exactly _).mp ⟨_, List.mem_map_of_mem member, spelled (named target member)⟩
    rwa [← List.append_cancel_right same] at lacks
  · intro lacks
    obtain ⟨path, member, below⟩ := (exactly (target ++ [initializerName])).mpr ⟨target, rfl, lacks⟩
    obtain ⟨other, inside, rfl⟩ := List.mem_map.mp member
    have same := below.unique (spelled (named other inside))
    rwa [List.append_cancel_right same]

/-! ### The completed tree -/

/-- What the later snapshot shows are the same directories, and no files but the same ones and the
initializers that the plan for the earlier one names. -/
structure Completed (snapshot later : Snapshot) (file directory files directories : List String → Prop) : Prop where
  depicts : snapshot.Depicts file directory
  also : later.Depicts files directories
  file_iff : ∀ names, names ≠ [] →
    (files names ↔ file names ∨ ∃ target, names = target ++ [initializerName] ∧
      snapshot.Visits [] target ∧ snapshot.Lacks target)
  directory_iff : ∀ names, names ≠ [] → (directories names ↔ directory names)

namespace Completed

variable {files directories : List String → Prop}
    (completed : Completed snapshot later file directory files directories)
include completed

theorem seen_iff : Seen directories names target ↔ Seen directory names target :=
  ⟨fun seen => seen.imp fun names some => (completed.directory_iff names some).mp,
    fun seen => seen.imp fun names some => (completed.directory_iff names some).mpr⟩

/-- What the later snapshot lists was listed before, but for an initializer that was planned. -/
theorem exists_earlier (seen : Seen directory [] names) (listed : later.at? names = some listing) :
    ∃ earlier, snapshot.at? names = some earlier ∧
      (∀ name ∈ listing.files, name ∈ earlier.files ∨ name = initializerName ∧ snapshot.IsPackage names) ∧
      ∀ name ∈ listing.directories, name ∈ earlier.directories ∧ directory (names ++ [name]) := by
  obtain ⟨_, known, shows⟩ := completed.also names (completed.seen_iff.mpr seen)
  cases listed.symm.trans known
  obtain ⟨earlier, before, shown⟩ := completed.depicts names seen
  refine ⟨earlier, before, fun name found => ?_, fun name found => ?_⟩
  · rcases (completed.file_iff _ (by simp)).mp ((shows.files _).mp found) with old | ⟨target, same, -, lacks⟩
    · exact .inl ((shown.files _).mpr old)
    · obtain ⟨rfl, last⟩ := List.append_inj' same rfl
      exact .inr ⟨List.singleton_injective last, lacks.1⟩
  · have inside := (completed.directory_iff _ (by simp)).mp ((shows.directories _).mp found)
    exact ⟨(shown.directories _).mpr inside, inside⟩

theorem isPackage (seen : Seen directory [] names) (package : later.IsPackage names) : snapshot.IsPackage names := by
  induction package with
  | @initializer names listing below listed found =>
    obtain ⟨earlier, before, files, -⟩ := completed.exists_earlier seen listed
    rcases files _ found with old | ⟨-, package⟩
    · exact .initializer below before old
    · exact package
  | @module names listing name below listed found importable =>
    obtain ⟨earlier, before, files, -⟩ := completed.exists_earlier seen listed
    rcases files _ found with old | ⟨-, package⟩
    · exact .module below before old importable
    · exact package
  | @inner names listing name below listed found open_ _ ih =>
    obtain ⟨earlier, before, -, directories⟩ := completed.exists_earlier seen listed
    obtain ⟨old, inside⟩ := directories _ found
    exact .inner below before old open_ (ih (seen.concat inside open_))

theorem not_lacks (visits : later.Visits [] target) : ¬ later.Lacks target := by
  rintro ⟨package, listing, listed, absent⟩
  have seen : Seen directory [] target := completed.seen_iff.mp ((completed.also.visits_iff (.here [])).mp visits)
  obtain ⟨_, known, shows⟩ := completed.also target (completed.seen_iff.mpr seen)
  cases listed.symm.trans known
  obtain ⟨earlier, listed, shown⟩ := completed.depicts target seen
  apply absent
  rw [shows.files, completed.file_iff _ (by simp)]
  by_cases before : initializerName ∈ earlier.files
  · exact .inl ((shown.files _).mp before)
  · exact .inr ⟨target, rfl, (completed.depicts.visits_iff (.here [])).mpr seen, completed.isPackage seen package,
      earlier, listed, before⟩

theorem plan?_eq_nil (proper : later.Proper) : later.plan? false = some [] := by
  obtain ⟨targets, planned, -, exactly⟩ := exists_targets proper
  have none : targets = [] := by
    rw [List.eq_nil_iff_forall_not_mem]
    intro target member
    obtain ⟨visits, lacks⟩ := (exactly target).mp member
    exact completed.not_lacks visits lacks
  rw [planned, none]
  rfl

end Completed

end WheelInstaller.Snapshot
