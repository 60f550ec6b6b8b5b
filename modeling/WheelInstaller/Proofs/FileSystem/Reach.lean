import WheelInstaller.Proofs.FileSystem.Directories
import WheelInstaller.Proofs.FileSystem.Operation

/-! What a path passes on its way. A path that leads to a directory passes nothing but directories; and it still
leads there as long as what it passes stays. -/

namespace WheelInstaller

namespace Path

variable {home : Location} {path above : Path}

theorem exists_lead {first : List Char} : ∃ component, lead first = [component] := by
  unfold lead Component.ofSegment?
  split
  · exact ⟨_, rfl⟩
  next filled =>
    split
    · exact ⟨_, rfl⟩
    next notCurrent =>
      simp only [filled, notCurrent, decide_false, Bool.or_self, Bool.false_eq_true, if_false]
      split <;> exact ⟨_, rfl⟩

theorem mem_steps_of_name {name : String} (member : .name name ∈ path.components) : name ∈ path.steps := by
  have filled : path.text ≠ "" := by
    intro empty
    have none : path = ⟨""⟩ := by cases path; simp_all
    simp [none, components_empty] at member
  obtain ⟨first, rest, pieces, some⟩ := pieces_of_nonempty filled
  rw [components_of_pieces pieces some, List.mem_append] at member
  have segment : ∃ segment ∈ first :: rest, Component.ofSegment? segment = .some (.name name) := by
    rcases member with leading | further
    · refine ⟨first, by simp, ?_⟩
      unfold lead at leading
      split at leading
      · simp at leading
      · split at leading
        · simp at leading
        · simpa using leading
    · obtain ⟨segment, inside, found⟩ := List.mem_filterMap.mp further
      exact ⟨segment, by simp [inside], found⟩
  obtain ⟨segment, inside, found⟩ := segment
  obtain ⟨rfl, nonempty, -⟩ := Component.ofSegment?_eq_name.mp found
  refine List.mem_map.mpr ⟨name.toList, List.mem_filter.mpr ⟨pieces ▸ inside, by simpa using nonempty⟩, by simp⟩

/-- A path that is continued by another one stands for a location on the way of that. -/
theorem exists_front_of_prefix (inside : above.components <+: path.components) (told : above.components ≠ []) :
    ∃ front, front <+: path.steps ∧
      above.locate home = FileSystem.settle (if path.isAbsolute then [] else home) front := by
  have filled : path.text ≠ "" := by
    intro empty
    have none : path = ⟨""⟩ := by cases path; simp_all
    rw [none, components_empty, List.prefix_nil] at inside
    exact told inside
  obtain ⟨first, rest, pieces, some⟩ := pieces_of_nonempty filled
  obtain ⟨start, leading⟩ : ∃ component, lead first = [component] := exists_lead
  obtain ⟨others, whole⟩ := inside
  rw [components_of_pieces pieces some, leading] at whole
  obtain ⟨component, components, shape⟩ := List.exists_cons_of_ne_nil told
  rw [shape, List.cons_append, List.singleton_append] at whole
  obtain ⟨rfl, further⟩ := List.cons.inj whole
  obtain ⟨before, after, rfl, kept, -⟩ := List.filterMap_eq_append_iff.mp further.symm
  refine ⟨((first :: before).filter (!·.isEmpty)).map String.ofList, ?_, ?_⟩
  · unfold steps
    rw [pieces, ← List.cons_append, List.filter_append, List.map_append]
    exact List.prefix_append _ _
  · rw [settle_segments, foldl_pieces pieces some, kept, leading, locate, shape]
    rfl

end Path

namespace FileSystem

variable {files after : FileSystem} {path : Path} {here location : Location} {steps : List String} {node : Node}

/-- The location is on the way of the path. -/
def Crosses (files : FileSystem) (path : Path) (location : Location) : Prop :=
  ∃ front, front <+: path.strictSteps ∧ location = settle (files.origin path) front

theorem Crosses.end (files : FileSystem) (path : Path) : files.Crosses path (path.locate files.home) :=
  ⟨path.strictSteps, List.prefix_refl _, settle_origin.symm⟩

/-- A path that does not lead up passes nothing but what is above its end. -/
theorem Crosses.above (crosses : files.Crosses path location) (straight : path.Straight) :
    location <+: path.locate files.home := by
  obtain ⟨front, ⟨rest, whole⟩, rfl⟩ := crosses
  have onward : ".." ∉ rest := fun member => straight.strictSteps (whole ▸ List.mem_append_right front member)
  have whole : path.locate files.home = settle (files.origin path) front ++ rest.filter (· ≠ ".") := by
    rw [← settle_straight onward, ← settle_append, whole, settle_origin]
  exact whole ▸ List.prefix_append _ _

/-- Steps lead to the same place as long as everything on the way stays. -/
theorem Leads.along (leads : files.Leads here steps (.occupied location node))
    (kept : ∀ front, front <+: steps → after.get? (settle here front) = files.get? (settle here front)) :
    after.Leads here steps (.occupied location node) := by
  generalize place : Place.occupied location node = ending at leads
  induction leads with
  | here found =>
    cases place
    exact .here ((kept [] (List.prefix_refl _)).trans found)
  | current found further ih =>
    refine .current ((kept [] List.nil_prefix).trans found) (ih (fun front inside => ?_) place)
    simpa [settle] using kept ("." :: front) (List.cons_prefix_cons.mpr ⟨rfl, inside⟩)
  | parent found further ih =>
    refine .parent ((kept [] List.nil_prefix).trans found) (ih (fun front inside => ?_) place)
    simpa [settle] using kept (".." :: front) (List.cons_prefix_cons.mpr ⟨rfl, inside⟩)
  | vacant => cases place
  | @down here name rest place found named inside further ih =>
    have onward (front : List String) : settle here (name :: front) = settle (here ++ [name]) front := by
      simp [settle, named.notCurrent, named.notParent]
    refine .down ((kept [] List.nil_prefix).trans found) named ?_ (ih (fun front within => ?_) ‹_›)
    · have still := kept [name] (by simp)
      rw [onward, settle] at still
      rwa [still]
    · simpa [onward] using kept (name :: front) (List.cons_prefix_cons.mpr ⟨rfl, within⟩)

/-- A path leads to the same node as long as everything on its way stays. -/
theorem status_along (plain : files.Plain) (also : after.Plain) (home : after.home = files.home)
    (found : files.status true path = .ok (location, node))
    (kept : ∀ location, files.Crosses path location → after.get? location = files.get? location) :
    after.status true path = .ok (location, node) := by
  obtain ⟨checked, leads⟩ := (status_eq_ok plain).mp found
  have same : after.origin path = files.origin path := by simp [origin, home]
  refine (status_eq_ok also).mpr ⟨checked, ?_⟩
  rw [same]
  exact leads.along fun front inside => kept _ ⟨front, inside, rfl⟩

/-- A path leads to a directory as long as everything on its way stays. -/
theorem isDirectory_along (plain : files.Plain) (also : after.Plain) (home : after.home = files.home)
    (there : files.isDirectory path = true)
    (kept : ∀ location, files.Crosses path location → after.get? location = files.get? location) :
    after.isDirectory path = true := by
  obtain ⟨location, found⟩ := status_of_isDirectory there
  simp [isDirectory, status_along plain also home found kept]

/-- A path leads to the same node as long as nothing goes and the node stays. -/
theorem status_persists (plain : files.Plain) (also : after.Plain) (home : after.home = files.home)
    (persists : Persists files after)
    (found : files.status true path = .ok (location, node)) (same : after.get? location = some node) :
    after.status true path = .ok (location, node) := by
  obtain ⟨checked, leads⟩ := (status_eq_ok plain).mp found
  obtain ⟨kept, there, onward⟩ := leads.persists persists
  cases same.symm.trans there
  refine (status_eq_ok also).mpr ⟨checked, ?_⟩
  rwa [show after.origin path = files.origin path by simp [origin, home]]

theorem Leads.get?_front (leads : files.Leads here steps (.occupied location .directory)) {front : List String}
    (inside : front <+: steps) : files.get? (settle here front) = some .directory := by
  obtain ⟨rest, rfl⟩ := inside
  cases rest with
  | nil =>
    rw [List.append_nil] at leads
    obtain ⟨rfl, found⟩ := leads.occupied
    exact found
  | cons step rest => exact (leads.front (List.cons_ne_nil step rest)).1.occupied.2

theorem get?_of_passes (plain : files.Plain) (there : files.isDirectory path = true)
    (passes : path.Passes files.home location) :
    files.get? location = some .directory := by
  obtain ⟨above, inside, told, rfl⟩ := passes
  obtain ⟨end_, found⟩ := status_of_isDirectory there
  obtain ⟨-, leads⟩ := (status_eq_ok plain).mp found
  obtain ⟨front, within, same⟩ := @Path.exists_front_of_prefix files.home _ _ inside told
  rw [same]
  exact leads.get?_front (within.trans path.steps_prefix_strictSteps)

end FileSystem
end WheelInstaller

/-! ### Canonical paths

Two paths lead to the same location if their canonical paths are the same, and they
keep these while what they pass stays. -/

namespace WheelInstaller

namespace Text

theorem joinWith_eq (separator : Char) (pieces : List (List Char)) :
    joinWith separator pieces = [separator].intercalate pieces := by
  induction pieces with
  | nil => rfl
  | cons first rest ih =>
    cases rest with
    | nil => simp [joinWith]
    | cons second rest => simp [joinWith, ih, List.intercalate_cons_cons]

end Text

namespace FileSystem

variable {files after : FileSystem} {path other found : Path} {location : Location}

theorem components_absolutePath (proper : ∀ name ∈ location, ProperName name) :
    (absolutePath location).components = .root :: location.map .name := by
  have letters : (absolutePath location).text.toList = '/' :: Text.joinWith '/' (location.map String.toList) := by
    simp [absolutePath, Text.joinWith_eq]
  have pieces : Text.splitOn '/' (absolutePath location).text.toList =
      [] :: Text.splitOn '/' (Text.joinWith '/' (location.map String.toList)) := by
    rw [letters, Text.splitOn, if_pos rfl]
  rw [Path.components_of_pieces pieces (.inr (Text.splitOn_ne_nil _ _))]
  simp only [Path.lead, if_true, List.singleton_append, List.cons.injEq, true_and]
  cases location with
  | nil => rfl
  | cons first rest =>
    rw [Text.splitOn_joinWith (by simp) (by simpa using fun name member => (proper name member).clean),
      List.filterMap_map]
    rw [← List.filterMap_eq_map]
    exact List.filterMap_congr fun name member => Component.ofSegment?_name (proper name member)

theorem canonicalize_eq_ok (plain : files.Plain) :
    files.canonicalize path = .ok found ↔
      path.checkGiven = .ok () ∧ found.check = .ok () ∧ found = absolutePath (path.locate files.home) ∧
        ∃ node, files.Leads (files.origin path) path.strictSteps (.occupied (path.locate files.home) node) := by
  unfold canonicalize
  cases given : path.checkGiven with
  | error error => simp [bind, Except.bind]
  | ok =>
    simp only [bind, Except.bind, true_and]
    cases walked : files.walk true linkLimit (files.origin path) path.strictSteps with
    | error error =>
      simp only [reduceCtorEq, false_iff]
      rintro ⟨-, -, node, leads⟩
      rw [(walk_eq_ok plain).mpr ⟨leads, rfl⟩] at walked
      cases walked
    | ok result =>
      obtain ⟨place, left⟩ := result
      obtain ⟨leads, -⟩ := (walk_eq_ok plain).mp walked
      cases place with
      | vacant directory name =>
        simp only [reduceCtorEq, false_iff]
        rintro ⟨-, -, node, further⟩
        rw [(walk_eq_ok plain).mpr ⟨further, rfl⟩] at walked
        cases walked
      | occupied location node =>
        obtain ⟨rfl, there⟩ := leads.occupied
        rw [settle_origin] at leads ⊢
        cases checked : (absolutePath (path.locate files.home)).check with
        | error error =>
          simp only [checked, reduceCtorEq, false_iff]
          rintro ⟨fits, rfl, -⟩
          rw [checked] at fits
          cases fits
        | ok =>
          simp only [checked, pure, Except.pure, Except.ok.injEq]
          constructor
          · rintro rfl
            exact ⟨checked, rfl, node, leads⟩
          · rintro ⟨-, rfl, -⟩
            rfl

theorem get?_of_canonicalize (plain : files.Plain) (known : files.canonicalize path = .ok found) :
    files.get? (path.locate files.home) ≠ none := by
  obtain ⟨-, -, -, node, leads⟩ := (canonicalize_eq_ok plain).mp known
  simp [leads.occupied.2]

theorem locate_of_same (plain : files.Plain) {source : Path} (known : files.canonicalize path = .ok found)
    (also : files.canonicalize other = .ok source) (same : found.same source = true) :
    path.locate files.home = other.locate files.home := by
  have first := plain.proper (get?_of_canonicalize plain known)
  have second := plain.proper (get?_of_canonicalize plain also)
  obtain ⟨-, -, rfl, -⟩ := (canonicalize_eq_ok plain).mp known
  obtain ⟨-, -, rfl, -⟩ := (canonicalize_eq_ok plain).mp also
  simp only [Path.same, decide_eq_true_eq, components_absolutePath first, components_absolutePath second,
    List.cons.injEq, true_and] at same
  exact List.map_injective_iff.mpr (fun _ _ equal => Component.name.inj equal) same

theorem canonicalize_persists (plain : files.Plain) (still : after.Plain) (home : after.home = files.home)
    (persists : Persists files after) (known : files.canonicalize path = .ok found) :
    after.canonicalize path = .ok found := by
  obtain ⟨given, checked, same, node, leads⟩ := (canonicalize_eq_ok plain).mp known
  obtain ⟨kept, -, further⟩ := leads.persists persists
  rw [canonicalize_eq_ok still, home]
  refine ⟨given, checked, same, kept, ?_⟩
  rwa [origin, home]

/-- A canonical path stays the same as long as its path leads to the same location. -/
theorem canonicalize_of_status (plain : files.Plain) (still : after.Plain) (home : after.home = files.home)
    (known : files.canonicalize path = .ok found) {node : Node}
    (reached : after.status true path = .ok (location, node)) :
    after.canonicalize path = .ok found := by
  obtain ⟨given, checked, rfl, -⟩ := (canonicalize_eq_ok plain).mp known
  obtain ⟨-, leads⟩ := (status_eq_ok still).mp reached
  obtain ⟨rfl, -⟩ := status_sound still reached
  rw [← home] at checked ⊢
  exact (canonicalize_eq_ok still).mpr ⟨given, checked, rfl, node, leads⟩

end FileSystem
end WheelInstaller
