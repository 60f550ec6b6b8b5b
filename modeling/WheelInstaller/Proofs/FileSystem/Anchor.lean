import WheelInstaller.Proofs.FileSystem.Directories

/-! Paths that end in a name, in a directory that is there. What is at the end of one can be found and taken away. -/

namespace WheelInstaller.FileSystem

variable {files after : FileSystem} {path base : Path} {directory location : Location} {name : String} {node : Node}

/-- The path leads to a directory, and ends in a name from there. -/
structure Anchored (files : FileSystem) (path : Path) (directory : Location) (name : String) : Prop where
  check : path.check = .ok ()
  leads : files.Leads (files.origin path) path.steps.dropLast (.occupied directory .directory)
  last : path.steps.getLast? = some name
  named : Named name

theorem anchored_of_spot {spot : Spot} (spotOf : SpotOf files path spot) (last : spot.last = .name name)
    (short : name.utf8ByteSize ≤ Path.longestName) : files.Anchored path spot.directory name := by
  obtain ⟨-, proper, last⟩ := spotOf.name name last
  exact ⟨spotOf.check, spotOf.leads, last, proper.notCurrent, proper.notParent, short⟩

namespace Anchored

variable (anchored : files.Anchored path directory name)
include anchored

theorem steps : path.steps = path.steps.dropLast ++ [name] := by
  obtain ⟨front, split⟩ := List.getLast?_eq_some_iff.mp anchored.last
  rw [split, List.dropLast_concat]

theorem holder : files.get? directory = some .directory :=
  anchored.leads.occupied.2

theorem locate : path.locate files.home = directory ++ [name] := by
  rw [← Path.settle_steps, anchored.steps, settle_append,
    settle_name anchored.named.notCurrent anchored.named.notParent]
  exact congrArg (· ++ [name]) anchored.leads.occupied.1.symm

theorem locate_ne_nil : path.locate files.home ≠ [] := by
  simp [anchored.locate]

theorem onward : lastStep path.steps.getLast? = .name name := by
  rw [anchored.last]
  unfold lastStep
  split
  next same => cases same
  next same => exact absurd (Option.some.inj same) anchored.named.notCurrent
  next same => exact absurd (Option.some.inj same) anchored.named.notParent
  next same => rw [Option.some.inj same]

theorem spot (plain : files.Plain) :
    files.spot path = .ok ⟨directory, .name name, path.hasTrailingSlash, linkLimit⟩ := by
  have walked : files.walk true linkLimit (files.origin path) path.steps.dropLast =
    .ok (.occupied directory .directory, linkLimit) :=
    (walk_eq_ok plain).mpr ⟨anchored.leads, rfl⟩
  unfold origin at walked
  unfold FileSystem.spot spotFrom
  simp [anchored.check, bind, Except.bind, pure, Except.pure, walked, Node.isDirectory, anchored.onward]

theorem nodeIn : files.nodeIn directory name = .ok (files.get? (path.locate files.home)) :=
  nodeIn_eq_ok.mpr ⟨anchored.named.short, by rw [anchored.locate]⟩

/-- The directory that holds the end of the path stays, as all directories on the way do. -/
theorem persists (persists : Persists files after) (home : after.home = files.home) :
    after.Anchored path directory name := by
  obtain ⟨kept, found, leads⟩ := anchored.leads.persists persists
  cases (persists.directory anchored.holder).symm.trans found
  refine ⟨anchored.check, ?_, anchored.last, anchored.named⟩
  rw [show after.origin path = files.origin path by simp [origin, home]]
  exact leads

theorem status (plain : files.Plain) {follow : Bool} (found : files.get? (path.locate files.home) = some node)
    (strict : path.hasTrailingSlash = true → node = .directory) :
    files.status follow path = .ok (path.locate files.home, node) := by
  have leads : files.Leads (files.origin path) path.steps (.occupied (path.locate files.home) node) := by
    rw [anchored.locate] at found ⊢
    rw [anchored.steps]
    exact anchored.leads.append (.down anchored.holder anchored.named (by simp [found]) (.here found))
  refine (status_eq_ok plain).mpr ⟨anchored.check, ?_⟩
  by_cases slash : path.hasTrailingSlash = true
  · cases strict slash
    exact leads_strict leads
  · unfold Path.strictSteps
    rwa [if_neg slash]

theorem exists? (plain : files.Plain) (found : files.get? (path.locate files.home) = some node)
    (strict : path.hasTrailingSlash = true → node = .directory) : files.exists? path = true := by
  unfold FileSystem.exists?
  rw [anchored.status plain found strict]

theorem isDirectory (plain : files.Plain) (found : files.get? (path.locate files.home) = some .directory) :
    files.isDirectory path = true := by
  unfold FileSystem.isDirectory
  rw [anchored.status plain found fun _ => rfl]

end Anchored

theorem anchored_of_straight (straight : path.Straight) (checked : path.check = .ok ())
    (short : ∀ step ∈ path.steps.dropLast, step.utf8ByteSize ≤ Path.longestName)
    (last : path.steps.getLast? = some name)
    (named : Named name) (holder : files.get? (settle (files.origin path) path.steps.dropLast) = some .directory) :
    files.Anchored path (settle (files.origin path) path.steps.dropLast) name :=
  have onward := List.dropLast_subset path.steps
  ⟨checked, leads_of_straight (fun member => straight.steps (onward member)) short holder fun _ => rfl, last, named⟩

theorem Anchored.elsewhere {other : FileSystem} (anchored : files.Anchored path directory name)
    (straight : path.Straight) (home : other.home = files.home)
    (occupied : other.get? (path.locate other.home) ≠ none) : other.Anchored path directory name := by
  have reached : directory = settle (other.origin path) path.steps.dropLast := by
    rw [show other.origin path = files.origin path by simp [origin, home]]
    exact anchored.leads.occupied.1
  have holder : other.get? directory = some .directory := by
    rw [home, anchored.locate] at occupied
    exact get?_above occupied (List.cons_ne_nil name [])
  rw [reached] at holder ⊢
  exact anchored_of_straight straight anchored.check anchored.leads.short anchored.last anchored.named holder

theorem leads_of_isDirectory (plain : files.Plain) (there : files.isDirectory path = true) :
    path.check = .ok () ∧ files.Leads (files.origin path) path.steps
    (.occupied (path.locate files.home) .directory) := by
  obtain ⟨location, found⟩ := status_of_isDirectory there
  obtain ⟨rfl, -⟩ := status_sound plain found
  obtain ⟨checked, leads⟩ := (status_eq_ok plain).mp found
  refine ⟨checked, ?_⟩
  obtain ⟨dots, rfl | rfl, strict⟩ := path.strictSteps_eq
  · rwa [strict, List.append_nil] at leads
  · rw [strict] at leads
    have front := (leads.front (List.cons_ne_nil _ _)).1
    rwa [show settle (files.origin path) path.steps = path.locate files.home from Path.settle_steps] at front

theorem anchored_div (plain : files.Plain) (there : files.isDirectory base = true) (proper : ProperName name)
    (checked : (base / name).check = .ok ()) (short : name.utf8ByteSize ≤ Path.longestName) :
    files.Anchored (base / name) (base.locate files.home) name := by
  obtain ⟨given, leads⟩ := leads_of_isDirectory plain there
  have filled := Path.filled_of_check given
  refine ⟨checked, ?_, ?_, proper.notCurrent, proper.notParent, short⟩
  · rw [Path.steps_div filled proper, List.dropLast_concat,
      show files.origin (base / name) = files.origin base by simp [origin, Path.isAbsolute_div filled proper]]
    exact leads
  · rw [Path.steps_div filled proper, List.getLast?_concat]

/-! ### What operations need -/

theorem Finds.anchored (plain : files.Plain) {spot : Spot} {known : Option Node}
    (finds : files.Finds path spot name known) :
    files.Anchored path spot.directory name :=
  anchored_of_spot (spot_sound plain finds.found) finds.last finds.short

theorem anchored_of_removeFile (plain : files.Plain) (done : (removeFile path).run files = (.ok (), after)) :
    ∃ directory name, files.Anchored path directory name := by
  obtain ⟨spot, name, node, finds, -⟩ := removeFile_eq_ok done
  exact ⟨_, _, finds.anchored plain⟩

theorem anchored_of_removeEmptyDirectory (plain : files.Plain)
    (done : (removeEmptyDirectory path).run files = (.ok (), after)) :
    ∃ directory name, files.Anchored path directory name := by
  obtain ⟨spot, name, finds, -⟩ := removeEmptyDirectory_eq_ok done
  exact ⟨_, _, finds.anchored plain⟩

theorem anchored_of_removeDirectory (plain : files.Plain) (below : path.locate files.home ≠ [])
    (straight : path.Straight) (done : (removeDirectory path).run files = (.ok (), after)) : ∃ directory name,
    files.Anchored path directory name := by
  obtain ⟨there, removed⟩ := removed_of_removeDirectory plain below straight done
  have clears := Clears.clear plain below there
  obtain ⟨directory, name, anchored⟩ := anchored_of_removeEmptyDirectory clears.plain removed
  exact ⟨directory, name, anchored.elsewhere straight rfl (by simp [there])⟩

theorem anchored_of_createFile (plain : files.Plain) (done : (createFile path).run files = (.ok location, after)) :
    path.hasTrailingSlash = false ∧ ∃ directory name, files.Anchored path directory name := by
  obtain ⟨-, spot, result, found, opened⟩ := createFile_eq_ok plain done
  unfold openSpot at opened
  split at opened
  next name last slash =>
    obtain ⟨known, inside, -⟩ := inspect_bind_ok opened
    exact ⟨(spot_sound plain found).slash ▸ slash, _, _, Finds.anchored plain ⟨found, last, inside⟩⟩
  next => cases opened

theorem anchored_of_writeFile (plain : files.Plain) {content : ByteArray}
    (done : (writeFile path content).run files = (.ok (), after)) :
    path.hasTrailingSlash = false ∧ ∃ directory name, files.Anchored path directory name := by
  obtain ⟨location, middle, created, -⟩ := bind_eq_ok done
  exact anchored_of_createFile plain created

theorem anchored_of_copyFile (plain : files.Plain) {source : Path} {count : Nat}
    (done : (copyFile source path).run files = (.ok count, after)) :
    path.hasTrailingSlash = false ∧ ∃ directory name, files.Anchored path directory name := by
  obtain ⟨⟨origin, node⟩, -, rest⟩ := inspect_bind_ok done
  cases node with
  | link | directory => cases rest
  | file mode content =>
    obtain ⟨location, created, opened, -⟩ := bind_eq_ok rest
    exact anchored_of_createFile plain opened

/-- There is a file now at the end of a path. -/
structure Writes (files : FileSystem) (path : Path) (after : FileSystem) : Prop where
  replaces : ∃ mode content, files.Replaces (path.locate files.home) mode content after
  strict : path.hasTrailingSlash = false
  anchored : ∃ directory name, files.Anchored path directory name

theorem writes_of_writeFile (plain : files.Plain) {content : ByteArray}
    (done : (writeFile path content).run files = (.ok (), after)) : files.Writes path after :=
  ⟨⟨_, content, writeFile_ok plain done⟩, (anchored_of_writeFile plain done).1, (anchored_of_writeFile plain done).2⟩

theorem writes_of_createFile (plain : files.Plain) {mode : Nat} {content : ByteArray}
    (done : (createFile path).run files = (.ok location, after)) :
    files.Writes path (after.put location (.file mode content)) := by
  obtain ⟨rfl, replaces⟩ := createFile_ok plain done
  obtain ⟨strict, anchored⟩ := anchored_of_createFile plain done
  exact ⟨⟨mode, content, replaces.trans (.put_file replaces.plain replaces.same (by simp))⟩, strict, anchored⟩

namespace Writes

variable (writes : files.Writes path after)
include writes

theorem plain : after.Plain :=
  writes.replaces.elim fun _ ⟨_, replaces⟩ => replaces.plain

theorem home : after.home = files.home :=
  writes.replaces.elim fun _ ⟨_, replaces⟩ => replaces.home

theorem other (apart : location ≠ path.locate files.home) : after.get? location = files.get? location :=
  writes.replaces.elim fun _ ⟨_, replaces⟩ => replaces.other apart

end Writes

theorem anchored_of_makeDirectory (plain : files.Plain) (done : (makeDirectory path).run files = (.ok (), after)) :
    files.get? (path.locate files.home) = none ∧ (∃ directory name, files.Anchored path directory name) ∧
      ∀ other, after.get? other = if other = path.locate files.home then some .directory else files.get? other := by
  obtain ⟨spot, name, finds, rfl⟩ := makeDirectory_eq_ok done
  have absent := finds.get?
  rw [finds.locate plain] at absent ⊢
  exact ⟨absent, ⟨_, _, finds.anchored plain⟩, get?_put (finds.room plain) (by simp [absent]) .directory⟩

/-! ### Taking away -/

theorem removeFile_anchored (plain : files.Plain) (anchored : files.Anchored path directory name) {mode : Nat}
    {content : ByteArray}
    (slash : path.hasTrailingSlash = false) (found : files.get? (path.locate files.home) = some (.file mode content)) :
    ∃ after, (removeFile path).run files = (.ok (), after) ∧ files.Removes (path.locate files.home) after := by
  have ran : (removeFile path).run files = (.ok (), files.erase (directory ++ [name])) := by
    unfold removeFile
    rw [run_bind_eq, run_inspect, anchored.spot plain]
    dsimp only
    rw [run_bind_eq, run_inspect, anchored.nodeIn, found]
    dsimp only
    rw [slash]
    rfl
  exact ⟨_, ran, (removeFile_ok plain ran).2⟩

theorem removeFile_anchored_directory (plain : files.Plain) (anchored : files.Anchored path directory name)
    (found : files.get? (path.locate files.home) = some .directory) :
    (removeFile path).run files = (.error .isDirectory, files) := by
  unfold removeFile
  rw [run_bind_eq, run_inspect, anchored.spot plain]
  dsimp only
  rw [run_bind_eq, run_inspect, anchored.nodeIn, found]
  rfl

theorem removeEmptyDirectory_anchored (plain : files.Plain) (anchored : files.Anchored path directory name)
    (found : files.get? (path.locate files.home) = some .directory)
    (empty : ∀ name, files.get? (path.locate files.home ++ [name]) = none) :
    ∃ after, (removeEmptyDirectory path).run files = (.ok (), after) := by
  have none : files.children (directory ++ [name]) = [] := by
    refine List.eq_nil_iff_forall_not_mem.mpr fun child member => ?_
    rw [← anchored.locate] at member
    exact mem_children.mp member (empty child)
  refine ⟨files.erase (directory ++ [name]), ?_⟩
  unfold removeEmptyDirectory
  rw [run_bind_eq, run_inspect, anchored.spot plain]
  dsimp only
  rw [run_bind_eq, run_inspect, anchored.nodeIn, found]
  dsimp only
  rw [run_bind_eq, run_get]
  dsimp only
  rw [none]
  rfl

/-- A directory can be taken away if the path still leads to it once there is nothing in it. -/
theorem removeDirectory_still (plain : files.Plain) (anchored : files.Anchored path directory name)
    (found : files.get? (path.locate files.home) = some .directory)
    (still : (files.clear (path.locate files.home)).Anchored path directory name) :
    ∃ after, (removeDirectory path).run files = (.ok (), after) ∧ files.Removes (path.locate files.home) after := by
  have clears := Clears.clear plain anchored.locate_ne_nil found
  have cleared := get?_clear plain anchored.locate_ne_nil (by simp [found])
  obtain ⟨after, removed⟩ := removeEmptyDirectory_anchored clears.plain still
    (by rw [clear_home, cleared, if_neg (by simp), found]) fun name => by rw [clear_home, cleared, if_pos (by simp)]
  refine ⟨after, ?_, ?_⟩
  · unfold removeDirectory
    rw [run_bind_eq, run_inspect, anchored.status plain found fun _ => rfl]
    dsimp only
    rw [run_bind_eq, run_modify]
    dsimp only
    rw [run_tryCatch, removed]
  · have removes := removeEmptyDirectory_ok clears.plain removed
    rw [clears.home] at removes
    exact clears.removed removes

/-- What is in a new place can be taken away: the way there does not lead through it. -/
theorem removeDirectory_anchored {start : FileSystem} (plain : files.Plain)
    (anchored : start.Anchored path directory name) (home : files.home = start.home)
    (kept : ∀ location node, start.get? location = some node → files.get? location = some node)
    (vacant : start.get? (path.locate start.home) = none)
    (found : files.get? (path.locate files.home) = some .directory) :
    ∃ after, (removeDirectory path).run files = (.ok (), after) ∧ files.Removes (path.locate files.home) after := by
  have now : files.Anchored path directory name :=
    anchored.persists (fun location node there => ⟨node, kept location node there, id⟩) home
  have beyond (rest : Location) : start.get? (path.locate start.home ++ rest) = none := by
    cases rest with
    | nil => simpa using vacant
    | cons next rest => exact get?_below (by simp [vacant]) (List.cons_ne_nil next rest)
  refine removeDirectory_still plain now found (anchored.persists (fun location node there => ⟨node, ?_, id⟩) home)
  rw [get?_clear plain now.locate_ne_nil (by simp [found]), if_neg]
  · exact kept location node there
  · rintro ⟨⟨rest, rfl⟩, -⟩
    rw [home, beyond] at there
    cases there

end WheelInstaller.FileSystem
