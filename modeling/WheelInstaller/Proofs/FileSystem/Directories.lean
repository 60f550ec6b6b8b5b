import WheelInstaller.Proofs.FileSystem.Operation

/-! Making and clearing directories. Directories are only made where nothing is, on the way along the path
that was given; what is cleared lies at the location of the path, or below. -/

namespace WheelInstaller

namespace Path

variable {path : Path}

theorem filled_of_check (checked : path.check = .ok ()) : path.text ≠ "" := by
  intro empty
  unfold check checkGiven at checked
  cases text : path.checkText <;> simp [text, empty, bind, Except.bind] at checked

theorem prefix_parent? : (path.parent?.getD ⟨""⟩).components <+: path.components := by
  cases found : path.parent? with
  | none => exact List.nil_prefix
  | some parent =>
    obtain ⟨last, split, -⟩ := components_parent? found
    exact ⟨[last], split.symm⟩

theorem prefix_foldl_stepFrom {here : Location} {components : List Component}
    (onward : .root ∉ components ∧ .parent ∉ components) : here <+: components.foldl stepFrom here := by
  induction components generalizing here with
  | nil => exact List.prefix_refl here
  | cons component rest ih =>
    simp only [List.mem_cons, not_or] at onward
    have further : stepFrom here component <+: rest.foldl stepFrom (stepFrom here component) :=
      ih ⟨onward.1.2, onward.2.2⟩
    cases component with
    | root => exact absurd rfl onward.1.1
    | parent => exact absurd rfl onward.2.1
    | current => exact further
    | name name => exact (List.prefix_append here [name]).trans further

/-- The location of the path, or of a path that it continues. -/
def Passes (home : Location) (path : Path) (location : Location) : Prop :=
  ∃ above : Path, above.components <+: path.components ∧ above.components ≠ [] ∧ location = above.locate home

theorem Straight.passes (straight : path.Straight) {home location : Location} (passes : path.Passes home location) :
    location <+: path.locate home := by
  obtain ⟨above, ⟨rest, split⟩, filled, rfl⟩ := passes
  obtain ⟨first, others, inner⟩ := List.exists_cons_of_ne_nil filled
  have root := root_not_mem_tail path
  unfold Straight at straight
  rw [locate, locate, ← split, List.foldl_append]
  apply prefix_foldl_stepFrom
  constructor
  · intro member
    exact root (by rw [← split, inner]; simp [member])
  · intro member
    exact straight (by rw [← split]; simp [member])

end Path

namespace FileSystem

variable {files after : FileSystem} {path : Path} {location : Location} {error : OsError}

/-- Directories are made where nothing was, and all else stays. -/
structure Grows (files : FileSystem) (made : Location → Prop) (after : FileSystem) : Prop where
  plain : after.Plain
  home : after.home = files.home
  get? : ∀ location, after.get? location = files.get? location ∨
    made location ∧ files.get? location = none ∧ after.get? location = some .directory

namespace Grows

variable {made more : Location → Prop}

theorem refl (plain : files.Plain) : files.Grows made files :=
  ⟨plain, rfl, fun _ => .inl rfl⟩

theorem weaken (grows : files.Grows made after) (implies : ∀ location, made location → more location) :
    files.Grows more after :=
  ⟨grows.plain, grows.home, fun location => (grows.get? location).imp_right (.imp_left (implies location))⟩

theorem trans {middle : FileSystem} (first : files.Grows made middle) (second : middle.Grows made after) :
    files.Grows made after := by
  refine ⟨second.plain, second.home.trans first.home, fun location => ?_⟩
  rcases second.get? location with same | ⟨allowed, absent, there⟩
  · rw [same]
    exact first.get? location
  · rcases first.get? location with same | ⟨-, -, made⟩
    · exact .inr ⟨allowed, same ▸ absent, there⟩
    · rw [absent] at made
      cases made

theorem kept (grows : files.Grows made after) {node : Node} (found : files.get? location = some node) :
    after.get? location = some node := by
  rcases grows.get? location with same | ⟨-, absent, -⟩
  · exact same.trans found
  · rw [absent] at found
    cases found

end Grows

theorem Grows.persists {made : Location → Prop} (grows : files.Grows made after) : Persists files after :=
  fun _ node found => ⟨node, grows.kept found, id⟩

theorem makeDirectory_eq_ok (done : (makeDirectory path).run files = (.ok (), after)) :
    ∃ spot name, files.Finds path spot name none ∧ after = files.put (spot.directory ++ [name]) .directory := by
  obtain ⟨spot, found, rest⟩ := inspect_bind_ok done
  split at rest
  next name last =>
    obtain ⟨known, inside, rest⟩ := inspect_bind_ok rest
    split at rest
    next => cases rest
    next =>
      cases rest
      exact ⟨spot, name, ⟨found, last, inside⟩, rfl⟩
  next => cases rest

theorem makeDirectory_ok (plain : files.Plain) (done : (makeDirectory path).run files = (.ok (), after)) :
    files.Grows (path.Passes files.home) after ∧ after.isDirectory path = true := by
  obtain ⟨spot, name, finds, rfl⟩ := makeDirectory_eq_ok done
  have spotOf := spot_sound plain finds.found
  obtain ⟨same, proper, final⟩ := spotOf.name name finds.last
  have room := finds.room plain
  have absent := finds.get?
  rw [same] at absent ⊢
  have found := get?_put room (by simp [absent]) .directory
  have grows : files.Grows (path.Passes files.home) (files.put (path.locate files.home) .directory) := by
    refine ⟨plain.put room (by simp), rfl, fun location => ?_⟩
    by_cases here : location = path.locate files.home
    · subst here
      refine .inr ⟨⟨path, List.prefix_refl _, ?_, rfl⟩, absent, by simp [found]⟩
      exact Path.components_ne_nil (Path.filled_of_check spotOf.check)
    · exact .inl (by simp [found, here])
  obtain ⟨kept, there, leads⟩ := spotOf.leads.persists grows.persists
  cases (grows.kept spotOf.directory).symm.trans there
  have made : (files.put (path.locate files.home) .directory).get? (spot.directory ++ [name]) = some .directory := by
    simp [same, found]
  have named : Named name := ⟨proper.notCurrent, proper.notParent, finds.short⟩
  obtain ⟨front, split⟩ := List.getLast?_eq_some_iff.mp final
  rw [split, List.dropLast_concat] at leads
  have onward := leads.append (.down there named (by simp [made]) (.here made))
  rw [← split] at onward
  exact ⟨grows, isDirectory_of_leads grows.plain spotOf.check onward⟩

theorem makeDirectory_error (failed : (makeDirectory path).run files = (.error error, after)) : after = files := by
  rcases inspect_bind_error failed with same | ⟨spot, found, failed⟩
  · exact same
  split at failed
  next =>
    rcases inspect_bind_error failed with same | ⟨known, inside, failed⟩
    · exact same
    split at failed
    · cases failed; rfl
    · cases failed
  next =>
    cases failed
    rfl

theorem run_unless_there {outcome : Except OsError Unit} {middle : FileSystem}
    (done : (if error = .alreadyExists && files.isDirectory path then return () else throw error :
      Action Unit).run middle =
      (outcome, after)) :
    after = middle ∧ (outcome = .ok () → files.isDirectory path = true) := by
  split at done
  next there =>
    cases done
    simp only [Bool.and_eq_true, decide_eq_true_eq] at there
    exact ⟨rfl, fun _ => there.2⟩
  next =>
    cases done
    exact ⟨rfl, by simp⟩

/-- One level of making directories: what is above the path may be made, and after it the path is made or nothing is
done. -/
theorem makeDirectoriesWithin_succ {count : Nat} {outcome : Except OsError Unit}
    (done : (makeDirectoriesWithin (count + 1) path).run files = (outcome, after)) :
    ∃ middle, (middle = files ∨ ∃ reached, (makeDirectoriesWithin count (path.parent?.getD ⟨""⟩)).run
      files = (reached, middle)) ∧
      ((makeDirectory path).run middle = (.ok (), after) ∨
        after = middle ∧ (outcome = .ok () → after.isDirectory path = true)) := by
  rw [makeDirectoriesWithin, run_bind_eq, run_get] at done
  dsimp only at done
  split at done
  next made first =>
    cases done
    exact ⟨files, .inl rfl, .inl first⟩
  next missing first =>
    rw [run_bind_eq] at done
    cases inner : (makeDirectoriesWithin count (path.parent?.getD ⟨""⟩)).run files with
    | mk reached middle =>
    refine ⟨middle, .inr ⟨reached, rfl⟩, ?_⟩
    rw [inner] at done
    cases reached with
    | error error =>
      cases done
      exact .inr ⟨rfl, nofun⟩
    | ok =>
      dsimp only at done
      rw [run_bind_eq, run_get] at done
      dsimp only at done
      split at done
      next made second =>
        cases done
        exact .inl second
      next error same second =>
        cases makeDirectory_error second
        obtain ⟨rfl, there⟩ := run_unless_there done
        exact .inr ⟨rfl, there⟩
  next error same _ first =>
    cases makeDirectory_error first
    obtain ⟨rfl, there⟩ := run_unless_there done
    exact ⟨after, .inl rfl, .inr ⟨rfl, there⟩⟩

theorem makeDirectoriesWithin_run (plain : files.Plain) {count : Nat} {outcome : Except OsError Unit}
    (done : (makeDirectoriesWithin count path).run files = (outcome, after)) :
    files.Grows (path.Passes files.home) after ∧
      (outcome = .ok () → 0 < count → after.isDirectory path = true) := by
  induction count generalizing files path outcome after with
  | zero =>
    cases done
    exact ⟨.refl plain, by simp⟩
  | succ count ih =>
    obtain ⟨middle, above, last⟩ := makeDirectoriesWithin_succ done
    have grows : files.Grows (path.Passes files.home) middle := by
      obtain rfl | ⟨reached, ran⟩ := above
      · exact .refl plain
      · exact (ih plain ran).1.weaken fun location ⟨above, inside, filled, same⟩ =>
          ⟨above, inside.trans Path.prefix_parent?, filled, same⟩
    obtain made | ⟨rfl, there⟩ := last
    · obtain ⟨more, there⟩ := makeDirectory_ok grows.plain made
      rw [grows.home] at more
      exact ⟨grows.trans more, fun _ _ => there⟩
    · exact ⟨grows, fun ok _ => there ok⟩

/-- Whatever comes of it, directories are only made along the path; and on success one is at its end, if
the path tells anything. -/
theorem makeDirectories_run (plain : files.Plain) {outcome : Except OsError Unit}
    (done : (makeDirectories path).run files = (outcome, after)) :
    files.Grows (path.Passes files.home) after ∧
      (outcome = .ok () → path.components ≠ [] → after.isDirectory path = true) := by
  obtain ⟨grows, there⟩ := makeDirectoriesWithin_run plain done
  exact ⟨grows, fun ok told => there ok (List.length_pos_iff.mpr told)⟩

/-! Directories are cleared before they are taken away. -/

/-- What was below a directory is gone, and perhaps the directory too; all else stays. -/
structure Clears (files : FileSystem) (location : Location) (after : FileSystem) : Prop where
  plain : after.Plain
  home : after.home = files.home
  other : ∀ other, ¬ location <+: other → after.get? other = files.get? other
  below : ∀ other, location <+: other → other ≠ location → after.get? other = none
  here : after.get? location = none ∨ after.get? location = some .directory

theorem Clears.clear (plain : files.Plain) (below : location ≠ []) (found : files.get? location = some .directory) :
    files.Clears location (files.clear location) := by
  have spec := get?_clear plain below (by simp [found])
  refine ⟨plain.clear below found, rfl, fun other apart => ?_, fun other above different => ?_, .inr ?_⟩
  · rw [spec, if_neg fun both => apart both.1]
  · rw [spec, if_pos ⟨above, different⟩]
  · rw [spec, if_neg fun both => both.2 rfl, found]

theorem Clears.removes {middle : FileSystem} (clears : files.Clears location middle)
    (removes : middle.Removes location after) : files.Clears location after := by
  refine ⟨removes.plain, removes.home.trans clears.home, fun other apart => ?_, fun other above _ => ?_, .inl ?_⟩
  · rw [removes.get?, if_neg apart, clears.other other apart]
  · rw [removes.get?, if_pos above]
  · rw [removes.get?, if_pos (List.prefix_refl _)]

/-- A directory that is cleared and then taken away is taken away with all below it. -/
theorem Clears.removed {middle : FileSystem} (clears : files.Clears location middle)
    (removes : middle.Removes location after) :
    files.Removes location after := by
  refine ⟨removes.plain, removes.home.trans clears.home, fun other => ?_⟩
  rw [removes.get?]
  split
  · rfl
  next apart => exact clears.other other apart

theorem removeEmptyDirectory_eq_ok (done : (removeEmptyDirectory path).run files = (.ok (), after)) :
    ∃ spot name, files.Finds path spot name (some .directory) ∧ after = files.erase (spot.directory ++ [name]) := by
  obtain ⟨spot, found, rest⟩ := inspect_bind_ok done
  split at rest
  next name last =>
    obtain ⟨known, inside, rest⟩ := inspect_bind_ok rest
    split at rest
    next => cases rest
    next =>
      rw [run_bind_eq, run_get] at rest
      dsimp only at rest
      split at rest
      · cases rest
        exact ⟨spot, name, ⟨found, last, inside⟩, rfl⟩
      · cases rest
    next => cases rest
  all_goals cases rest

theorem removeEmptyDirectory_ok (plain : files.Plain) (done : (removeEmptyDirectory path).run files = (.ok (), after)) :
    files.Removes (path.locate files.home) after := by
  obtain ⟨spot, name, finds, rfl⟩ := removeEmptyDirectory_eq_ok done
  rw [finds.locate plain]
  exact .erase plain (finds.room plain)

theorem removeEmptyDirectory_error (failed : (removeEmptyDirectory path).run files = (.error error, after)) :
    after = files := by
  rcases inspect_bind_error failed with same | ⟨spot, found, failed⟩
  · exact same
  split at failed
  next =>
    rcases inspect_bind_error failed with same | ⟨known, inside, failed⟩
    · exact same
    split at failed
    · cases failed; rfl
    · rw [run_bind_eq, run_get] at failed
      dsimp only at failed
      split at failed
      · cases failed
      · cases failed; rfl
    · cases failed; rfl
  next => cases failed; rfl
  next => cases failed; rfl
  next => cases failed; rfl

theorem run_tryCatch (action : Action Unit) (handler : OsError → Action Unit) (files : FileSystem) :
    (tryCatch action handler).run files =
      match action.run files with
      | (.ok value, after) => (.ok value, after)
      | (.error error, after) => (handler error).run after := by
  change (ExceptT.tryCatch action handler).run files = _
  unfold ExceptT.tryCatch ExceptT.mk
  simp only [ExceptT.run, bind, StateT.bind]
  cases (action files : Except OsError Unit × FileSystem) with
  | mk outcome after => cases outcome <;> rfl

/-- Taking away a directory fails at once, takes away a link in its place, or clears the directory first; and if the
path no longer leads to it then, it stays. -/
theorem removeDirectory_cases {outcome : Except OsError Unit}
    (done : (removeDirectory path).run files = (outcome, after)) :
    after = files ∧ outcome ≠ .ok () ∨
      (∃ location target, files.status false path = .ok (location, .link target) ∧
        (removeFile path).run files = (outcome, after)) ∨
      ∃ location reached, files.status false path = .ok (location, .directory) ∧
        (removeEmptyDirectory path).run (files.clear location) = (reached, after) ∧
        (outcome = reached ∨ reached = .error .notFound) := by
  unfold removeDirectory at done
  rw [run_bind_eq, run_inspect] at done
  cases found : files.status false path with
  | error error =>
    rw [found] at done
    cases done
    exact .inl ⟨rfl, by simp⟩
  | ok known =>
    obtain ⟨location, node⟩ := known
    rw [found] at done
    cases node with
    | link target => exact .inr (.inl ⟨location, target, rfl, done⟩)
    | file mode content =>
      cases done
      exact .inl ⟨rfl, by simp⟩
    | directory =>
      right
      right
      dsimp only at done
      rw [run_bind_eq, run_modify] at done
      dsimp only at done
      rw [run_tryCatch] at done
      -- The directory is empty now, but the path may have led through something that was in it.
      cases removed : (removeEmptyDirectory path).run (files.clear location) with
      | mk reached last =>
      rw [removed] at done
      cases reached with
      | ok =>
        cases done
        exact ⟨location, _, rfl, removed, .inl rfl⟩
      | error error =>
        dsimp only at done
        split at done
        next missing =>
          cases done
          exact ⟨location, _, rfl, removed, .inr (congrArg _ missing)⟩
        next =>
          cases done
          exact ⟨location, _, rfl, removed, .inl rfl⟩

theorem removeDirectory_run (plain : files.Plain) (below : path.locate files.home ≠ []) {outcome : Except OsError Unit}
    (done : (removeDirectory path).run files = (outcome, after)) :
    after = files ∧ outcome ≠ .ok () ∨
      files.get? (path.locate files.home) = some .directory ∧ files.Clears (path.locate files.home) after := by
  rcases removeDirectory_cases done with unchanged | ⟨location, target, found, -⟩ | ⟨location,
    reached, found, removed, -⟩
  · exact .inl unchanged
  · exact absurd (status_sound plain found).2 plain.not_link
  · obtain ⟨rfl, there⟩ := status_sound plain found
    have clears := Clears.clear plain below there
    refine .inr ⟨there, ?_⟩
    cases reached with
    | ok => exact clears.removes (removeEmptyDirectory_ok clears.plain removed)
    | error =>
      cases removeEmptyDirectory_error removed
      exact clears

theorem Clears.spot {middle : FileSystem} (plain : files.Plain) (straight : path.Straight)
    (found : files.status false path = .ok (path.locate files.home, .directory))
    (clears : files.Clears (path.locate files.home) middle)
    (kept : middle.get? (path.locate files.home) = some .directory) :
    ∃ spot, middle.spot path = .ok spot ∧
      ∀ name, spot.last = .name name → middle.nodeIn spot.directory name = .ok (some .directory) := by
  obtain ⟨checked, leads⟩ := (status_eq_ok plain).mp found
  have short : ∀ step ∈ path.steps, step.utf8ByteSize ≤ Path.longestName := fun step member =>
    leads.short step (path.steps_prefix_strictSteps.subset member)
  have init : path.steps.dropLast ⊆ path.steps := (List.dropLast_sublist path.steps).subset
  have start : (if path.isAbsolute then [] else middle.home) = files.origin path := by
    rw [clears.home]
    rfl
  have above : settle (files.origin path) path.steps.dropLast <+: path.locate files.home := by
    rw [← Path.settle_steps]
    change _ <+: settle (files.origin path) path.steps
    rw [settle_straight straight.steps, settle_straight fun member => straight.steps (init member)]
    exact (List.prefix_append_right_inj _).mpr ((List.dropLast_prefix _).filter _)
  have directory : middle.get? (settle (files.origin path) path.steps.dropLast) = some .directory := by
    obtain ⟨rest, split⟩ := above
    cases rest with
    | nil => rwa [← split, List.append_nil] at kept
    | cons name rest =>
      rw [← split] at kept
      exact get?_above (by simp [kept]) (List.cons_ne_nil name rest)
  have reached := leads_of_straight (fun member => straight.steps (init member))
    (fun step member => short step (init member))
    directory fun _ => rfl
  have walked : middle.walk true linkLimit (files.origin path) path.steps.dropLast =
      .ok (.occupied (settle (files.origin path) path.steps.dropLast) .directory, linkLimit) :=
    (walk_eq_ok clears.plain).mpr ⟨reached, rfl⟩
  have spot : middle.spot path = .ok ⟨settle (files.origin path) path.steps.dropLast,
      lastStep path.steps.getLast?, path.hasTrailingSlash, linkLimit⟩ := by
    unfold FileSystem.spot spotFrom
    simp [checked, bind, Except.bind, pure, Except.pure, start, walked, Node.isDirectory]
  refine ⟨_, spot, fun name last => ?_⟩
  obtain ⟨same, -, last⟩ := (spot_sound clears.plain spot).name name last
  refine nodeIn_eq_ok.mpr ⟨short name (List.mem_of_getLast? last), ?_⟩
  rw [same, clears.home, kept]

/-- A directory that was taken away along a straight path was taken away once it was empty: the path still led to it
then, so the failure that counts as success cannot have been met. -/
theorem removed_of_removeDirectory (plain : files.Plain) (below : path.locate files.home ≠ [])
    (straight : path.Straight) (done : (removeDirectory path).run files = (.ok (), after)) :
    files.get? (path.locate files.home) = some .directory ∧
      (removeEmptyDirectory path).run (files.clear (path.locate files.home)) = (.ok (), after) := by
  rcases removeDirectory_cases done with ⟨-, failed⟩ | ⟨location, target, found, -⟩ | ⟨location,
    reached, found, removed, ended⟩
  · exact absurd rfl failed
  · exact absurd (status_sound plain found).2 plain.not_link
  · obtain ⟨rfl, there⟩ := status_sound plain found
    have clears := Clears.clear plain below there
    have kept : (files.clear (path.locate files.home)).get? (path.locate files.home) = some .directory := by
      rw [get?_clear plain below (by simp [there]), if_neg fun both => both.2 rfl, there]
    -- The emptied directory is found, so a failure would be another one and be told.
    obtain ⟨spot, again, inside⟩ := clears.spot plain straight found kept
    refine ⟨there, ?_⟩
    rcases ended with rfl | rfl
    · exact removed
    · unfold removeEmptyDirectory at removed
      rw [run_bind_eq, run_inspect, again] at removed
      dsimp only at removed
      split at removed
      next name last =>
        rw [run_bind_eq, run_inspect, inside name last] at removed
        dsimp only at removed
        rw [run_bind_eq, run_get] at removed
        dsimp only at removed
        split at removed <;> cases removed
      all_goals cases removed

theorem removeDirectory_ok (plain : files.Plain) (below : path.locate files.home ≠ []) (straight : path.Straight)
    (done : (removeDirectory path).run files = (.ok (), after)) : files.Removes (path.locate files.home) after := by
  obtain ⟨there, removed⟩ := removed_of_removeDirectory plain below straight done
  have clears := Clears.clear plain below there
  have removes := removeEmptyDirectory_ok clears.plain removed
  rw [clears.home] at removes
  exact clears.removed removes

end FileSystem
end WheelInstaller
