import WheelInstaller.Proofs.Packages.Recording

/-! Snapshots whose listings fit together: whatever has a listing is named in the listing of what it is in. There the
directories that lack an initializer can be told from the listings alone, without going from one to the next. -/

namespace WheelInstaller

open Packages (isIgnored isModule initializerName)

variable {segment : String} {component : Component}

namespace Component

/-- The step leads to nothing that is ignored. -/
def Open (component : Component) : Prop :=
  ∀ name, component = .name name → isIgnored name = false

theorem Stands.open_iff (stands : Stands segment component) : component.Open ↔ isIgnored segment = false := by
  have step := stands.step
  unfold ofSegment? at step
  split at step
  next => cases step
  next =>
    split at step
    next parent =>
      have same : segment = ".." := String.toList_inj.mp parent
      subst same
      cases step
      have seen : isIgnored ".." = false := by decide
      simp [Open, seen]
    next =>
      rw [String.ofList_toList] at step
      cases step
      simp [Open]

end Component

namespace Snapshot

variable (snapshot : Snapshot)

/-- The names of the directories that are directly in one. -/
def inside (steps : List Component) : List String :=
  ((snapshot.directories[steps]?).getD {}).directories

/-- Below a directory, the listings name what is one step further, and whatever has a listing itself. -/
structure Connected (base : List Component) : Prop where
  clear : ∀ rest, ∀ segment ∈ snapshot.inside (base ++ rest), ∃ component, Component.Stands segment component
  linked : ∀ rest component, snapshot.directories[base ++ rest ++ [component]]? ≠ none →
    ∃ segment ∈ snapshot.inside (base ++ rest), Component.Stands segment component

/-- The directory should have an initializer, and has none. It is not the root, nothing on the way to it is ignored,
and it holds a module, or a directory below does to which nothing ignored leads. -/
structure Incomplete (directory : List Component) : Prop where
  below : directory ≠ []
  seen : ∀ component ∈ directory, component.Open
  lacking : ∃ listing, snapshot.directories[directory]? = some listing ∧ initializerName ∉ listing.files
  importable : ∃ rest : List Component, (∀ component ∈ rest, component.Open) ∧
    ∃ listing, snapshot.directories[directory ++ rest]? = some listing ∧ ∃ file ∈ listing.files, isModule file = true

/-- No initializer is planned where implicit packages are welcome. Elsewhere the plan has that of every incomplete
directory and no other, each once and in the order of the directories. -/
structure PlansExactly : Prop where
  welcome : snapshot.plan? true = some []
  otherwise : ∃ directories : List Path, snapshot.plan? false = some (directories.map (· / initializerName)) ∧
    (directories.Pairwise fun first second => Path.orderComponents first.components second.components = .lt) ∧
    ∀ steps, steps ∈ directories.map Path.components ↔ snapshot.Incomplete steps

variable {snapshot} {base rest steps target : List Component} {directory : Path}

theorem mem_inside : segment ∈ snapshot.inside steps ↔
    ∃ listing, snapshot.directories[steps]? = some listing ∧ segment ∈ listing.directories := by
  unfold inside
  cases snapshot.directories[steps]? <;> simp

theorem Reaches.exists_rest (reaches : snapshot.Reaches steps target) :
    ∃ rest, target = steps ++ rest ∧ ∀ component ∈ rest, component.Open := by
  induction reaches with
  | refl => exact ⟨[], by simp, by simp⟩
  | tail _ further ih =>
    obtain ⟨rest, rfl, open_⟩ := ih
    obtain ⟨_, -, segment, -, seen, component, stands, rfl⟩ := further
    refine ⟨rest ++ [component], by simp, fun other member => ?_⟩
    rcases List.mem_append.mp member with member | member
    · exact open_ other member
    · rw [List.mem_singleton.mp member]
      exact stands.open_iff.mpr seen

section Connected

variable (connected : snapshot.Connected [])
include connected

theorem Connected.inner_of_listed (listed : snapshot.directories[steps ++ [component]]? ≠ none)
    (open_ : component.Open) :
    snapshot.directories[steps]? ≠ none ∧ snapshot.Inner steps (steps ++ [component]) := by
  obtain ⟨segment, member, stands⟩ := connected.linked steps component listed
  obtain ⟨listing, found, member⟩ := mem_inside.mp member
  have found : snapshot.directories[steps]? = some listing := found
  have above : snapshot.directories[steps]? ≠ none := by
    rw [found]
    exact Option.some_ne_none listing
  exact ⟨above, listing, found, segment, member, stands.open_iff.mp open_, component, stands, rfl⟩

theorem Connected.reaches_append (listed : snapshot.directories[steps ++ rest]? ≠ none)
    (open_ : ∀ component ∈ rest, component.Open) :
    snapshot.Reaches steps (steps ++ rest) := by
  induction rest using List.reverseRecOn with
  | nil =>
    rw [List.append_nil]
    exact .refl
  | append_singleton rest component ih =>
    rw [← List.append_assoc] at listed ⊢
    obtain ⟨above, further⟩ := connected.inner_of_listed listed (open_ component (by simp))
    exact (ih above fun other member => open_ other (by simp [member])).tail further

theorem Connected.clear_visits : snapshot.Clear := by
  intro steps _ listing listed segment member _
  exact connected.clear steps segment (mem_inside.mpr ⟨listing, listed, member⟩)

theorem Connected.incomplete_iff : snapshot.Incomplete target ↔ snapshot.Reaches [] target ∧ snapshot.Wants target := by
  constructor
  · rintro ⟨below, seen, ⟨listing, listed, lacking⟩, rest, open_, inner, found, module⟩
    have reached : snapshot.Reaches [] ([] ++ target) := connected.reaches_append (by simp [listed]) seen
    have further : snapshot.Reaches target (target ++ rest) := connected.reaches_append (by simp [found]) open_
    exact ⟨reached, below, ⟨target ++ rest, further, inner, found, module⟩, listing, listed, lacking⟩
  · rintro ⟨reached, below, ⟨further, reaches, module⟩, lacking⟩
    obtain ⟨steps, rfl, seen⟩ := reached.exists_rest
    obtain ⟨rest, rfl, open_⟩ := reaches.exists_rest
    exact ⟨below, seen, lacking, rest, open_, module⟩

theorem Connected.plansExactly : snapshot.PlansExactly := by
  obtain ⟨directories, planned, ascending, exactly⟩ := exists_plan?_of_clear connected.clear_visits
  exact ⟨rfl, directories, planned, ascending, fun steps => (exactly steps).trans connected.incomplete_iff.symm⟩

end Connected

/-! ### Recorded paths -/

/-- Every segment of a path but `.` leads a step further. -/
theorem exists_stands {path : Path} (member : segment ∈ path.steps) (named : segment ≠ ".") : ∃ component,
    Component.Stands segment component := by
  obtain ⟨filled, clean⟩ := Path.mem_steps member
  have filled : segment.toList ≠ [] := fun empty => filled (String.toList_inj.mp empty)
  have named : segment.toList ≠ ['.'] := fun dot => named (String.toList_inj.mp dot)
  by_cases parent : segment.toList = ['.', '.']
  · exact ⟨.parent, clean, by simp [Component.ofSegment?, parent]⟩
  · exact ⟨.name segment, clean, by simp [Component.ofSegment?, filled, named, parent]⟩

theorem connected_ofPaths {paths : List String} (undotted : ∀ path ∈ paths, ['.'] ∉ Text.splitOn '/' path.toList) :
    (ofPaths paths).Connected [] := by
  have stands {front : List String} {segment : String} (through : Through paths (front ++ [segment])) : ∃ component,
    Component.Stands segment component := by
    obtain ⟨path, member, shorter, -⟩ := through
    have inside : segment ∈ (⟨path⟩ : Path).steps := shorter.subset (by simp)
    refine exists_stands inside fun dot => undotted path member ?_
    obtain ⟨piece, found, same⟩ := List.mem_map.mp inside
    have letters : piece = ['.'] := by simpa [dot] using congrArg String.toList same
    exact letters ▸ (List.mem_filter.mp found).1
  constructor
  · intro rest segment member
    obtain ⟨front, through, -⟩ := mem_directories_ofPaths.mp member
    exact stands through
  · intro rest component listed
    obtain ⟨front, below, through, same⟩ := (listed_ofPaths.mp listed).resolve_left (by simp)
    obtain ⟨front, segment, rfl⟩ := (List.eq_nil_or_concat' front).resolve_left below
    obtain ⟨other, further⟩ := stands through
    rw [Path.under_concat, Path.components_div_of_stands further] at same
    obtain ⟨above, last⟩ := List.append_inj' same rfl
    cases last
    exact ⟨segment, mem_directories_ofPaths.mpr ⟨front, through, above⟩, further⟩

end Snapshot
end WheelInstaller
