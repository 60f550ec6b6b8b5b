import WheelInstaller.Proofs.FileSystem.Sited

/-!
Empty files that come to a tree. All that was there stays as it was, and a directory without links
still has none.
-/

namespace WheelInstaller.FileSystem

variable {files before middle after : FileSystem} {root : Path} {site location : Location}
    {names front : List String} {last : String}
variable {added more : Location → Prop} {outcome : Except OsError Unit}

/-- Empty files have come to some places where nothing was, and all else is as it was. -/
structure Adds (before : FileSystem) (added : Location → Prop) (after : FileSystem) : Prop where
  home : after.home = before.home
  fresh : ∀ location, added location → before.get? location = none
  filled : ∀ location, added location → after.get? location = some (.file newFileMode .empty)
  kept : ∀ location, ¬ added location → after.get? location = before.get? location

namespace Adds

theorem refl (files : FileSystem) : Adds files (fun _ => False) files :=
  ⟨rfl, fun _ => False.elim, fun _ => False.elim, fun _ _ => rfl⟩

theorem trans (first : Adds before added middle) (second : Adds middle more after) :
    Adds before (fun location => added location ∨ more location) after := by
  constructor
  case home => exact second.home.trans first.home
  case fresh =>
    intro location either
    by_cases early : added location
    · exact first.fresh location early
    · rw [← first.kept location early]
      exact second.fresh location (either.resolve_left early)
  case filled =>
    intro location either
    by_cases late : more location
    · exact second.filled location late
    · rw [second.kept location late]
      exact first.filled location (either.resolve_right late)
  case kept =>
    intro location neither
    rw [not_or] at neither
    rw [second.kept location neither.2, first.kept location neither.1]

theorem congr (adds : Adds before added after) (same : ∀ location, more location ↔ added location) :
    Adds before more after := by
  have equal : more = added := funext fun location => propext (same location)
  rwa [equal]

variable (adds : Adds before added after)
include adds

theorem get?_eq_some {node : Node} (found : before.get? location = some node) : after.get? location = some node := by
  rw [adds.kept location, found]
  intro new
  rw [adds.fresh location new] at found
  cases found

theorem get?_eq_directory : after.get? location = some .directory ↔ before.get? location = some .directory := by
  constructor
  · intro found
    rwa [adds.kept location] at found
    intro new
    rw [adds.filled location new] at found
    cases found
  · exact adds.get?_eq_some

theorem get?_ne_none : after.get? location ≠ none ↔ before.get? location ≠ none ∨ added location := by
  by_cases new : added location
  · simp [new, adds.filled location new]
  · simp [new, adds.kept location new]

theorem sited (sited : before.Sited root site) : after.Sited root site := by
  obtain ⟨left, leads⟩ := sited.leads
  refine ⟨sited.told, ⟨left, ?_⟩, ?_⟩
  · have origin : after.origin root = before.origin root := by simp [origin, adds.home]
    rw [origin]
    exact walkBy_kept (fun _ _ => adds.get?_eq_some) leads
  · intro names target found
    by_cases new : added (site ++ names)
    · rw [adds.filled _ new] at found
      cases found
    · rw [adds.kept _ new] at found
      exact sited.noLink names target found

end Adds

/-! ### Writing an empty file -/

theorem run_append_put {name : String} {directory : Location} {mode : Nat}
    (holder : files.get? directory = some .directory) (free : files.get? (directory ++ [name]) ≠ some .directory)
    (ran : (append (directory ++ [name]) .empty).run
      (files.put (directory ++ [name]) (.file mode .empty)) = (outcome, after)) :
    outcome = .ok () ∧ after.home = files.home ∧ ∀ other, after.get? other =
      if other = directory ++ [name] then some (.file mode .empty) else files.get? other := by
  have once := get?_put_in holder free (.file mode .empty)
  have still : (files.put (directory ++ [name]) (.file mode .empty)).get? directory = some .directory := by
    rw [once, if_neg (by simp), holder]
  have there : (files.put (directory ++ [name]) (.file mode .empty)).get? (directory ++ [name]) =
    some (.file mode .empty) := by
    simp [once]
  rw [run_append, there] at ran
  dsimp only at ran
  rw [ByteArray.empty_append] at ran
  cases ran
  refine ⟨rfl, rfl, ?_⟩
  intro other
  rw [get?_put_in still (by simp [there])]
  split
  · rfl
  next apart => rw [once, if_neg apart]

theorem Sited.writeFile_within (sited : files.Sited root site) (proper : ∀ name ∈ front ++ [last], ProperName name)
    (ran : (writeFile (root.within (front ++ [last])) .empty).run files = (outcome, after)) :
    (∃ error, outcome = .error error ∧ after = files) ∨
      outcome = .ok () ∧ Taken root (front ++ [last]) ∧ after.home = files.home ∧ ∃ mode,
        (files.get? (site ++ (front ++ [last])) = none ∧ mode = newFileMode ∨
          ∃ content, files.get? (site ++ (front ++ [last])) = some (.file mode content)) ∧
        ∀ other, after.get? other = if other = site ++ (front ++ [last]) then some (.file mode .empty)
        else files.get? other := by
  unfold writeFile at ran
  rw [run_bind_eq] at ran
  cases found : files.spot (root.within (front ++ [last])) with
  | error error =>
    have failed : (createFile (root.within (front ++ [last]))).run files = (.error error, files) := by
      unfold createFile openToWrite
      rw [run_bind_eq, run_inspect, found]
    rw [failed] at ran
    cases ran
    exact .inl ⟨error, rfl, rfl⟩
  | ok spot =>
    obtain ⟨slash, ends, directory, checked, short⟩ := sited.spot_within proper found
    have holder := get?_of_spot found
    rw [directory] at holder
    have created := createFile_of_spot found slash ends fun target => by
      rw [directory, List.append_assoc]
      exact sited.noLink _ target
    rw [directory] at created
    rw [created] at ran
    rw [← List.append_assoc]
    by_cases long : Path.longestName < last.utf8ByteSize
    · rw [if_pos long] at ran
      cases ran
      exact .inl ⟨_, rfl, rfl⟩
    · rw [if_neg long] at ran
      have taken : Taken root (front ++ [last]) := by
        refine ⟨checked, ?_⟩
        intro name member
        rcases List.mem_append.mp member with above | here
        · exact short name above
        · rw [List.mem_singleton.mp here]
          omega
      cases there : files.get? (site ++ front ++ [last]) with
      | none =>
        rw [there] at ran
        obtain ⟨done, home, shown⟩ := run_append_put holder (there ▸ nofun) ran
        exact .inr ⟨done, taken, home, newFileMode, .inl ⟨rfl, rfl⟩, shown⟩
      | some node =>
        rw [there] at ran
        cases node with
        | directory =>
          cases ran
          exact .inl ⟨_, rfl, rfl⟩
        | file mode content =>
          obtain ⟨done, home, shown⟩ := run_append_put holder (there ▸ nofun) ran
          exact .inr ⟨done, taken, home, mode, .inr ⟨content, rfl⟩, shown⟩
        | link target =>
          rw [List.append_assoc] at there
          exact absurd there (sited.noLink _ target)

theorem Sited.exists_spot (sited : files.Sited root site) (proper : ∀ name ∈ front ++ [last], ProperName name)
    (taken : Taken root (front ++ [last])) (holder : files.get? (site ++ front) = some .directory) :
    ∃ spot, files.spot (root.within (front ++ [last])) = .ok spot := by
  obtain ⟨left, leads⟩ := sited.leads
  have inside : ∀ name ∈ front, ProperName name := fun name member => proper name (by simp [member])
  obtain ⟨remaining, walked⟩ : ∃ remaining, walkBy files.get? true left site front =
    .ok (.occupied (site ++ front) .directory, remaining) :=
    (walkBy_names_iff inside fun above target _ => sited.noLink above target).mpr
      ⟨rfl, holder, fun name member => taken.short name (by simp [member])⟩
  have along : walkBy files.get? true linkLimit (files.origin (root.within (front ++ [last])))
    (root.within (front ++ [last])).steps.dropLast =
      .ok (.occupied (site ++ front) .directory, remaining) := by
    rw [sited.origin_within proper, Path.steps_within sited.told proper, ← List.append_assoc, List.dropLast_concat,
      walkBy_append leads, walked]
  exact ⟨_, spot_of_walk taken.checked along⟩

/-- An empty file can be written in a directory that is there, unless a directory is in its place. -/
theorem Sited.writeFile_free (sited : files.Sited root site) (proper : ∀ name ∈ front ++ [last], ProperName name)
    (taken : Taken root (front ++ [last])) (holder : files.get? (site ++ front) = some .directory)
    (free : files.get? (site ++ (front ++ [last])) ≠ some .directory) :
    ∃ after, (writeFile (root.within (front ++ [last])) .empty).run files = (.ok (), after) := by
  obtain ⟨spot, found⟩ := sited.exists_spot proper taken holder
  obtain ⟨slash, ends, directory, -, -⟩ := sited.spot_within proper found
  have short : ¬ Path.longestName < last.utf8ByteSize := Nat.not_lt.mpr (taken.short last (by simp))
  have opened : ∃ middle, (createFile (root.within (front ++ [last]))).run files =
    (.ok (site ++ (front ++ [last])), middle) := by
    have created := createFile_of_spot found slash ends fun target => by
      rw [directory, List.append_assoc]
      exact sited.noLink _ target
    rw [if_neg short, directory, List.append_assoc] at created
    cases there : files.get? (site ++ (front ++ [last])) with
    | none =>
      rw [there] at created
      exact ⟨_, created⟩
    | some node =>
      rw [there] at created
      cases node with
      | file => exact ⟨_, created⟩
      | directory => exact absurd there free
      | link target => exact absurd there (sited.noLink _ target)
  obtain ⟨middle, opened⟩ := opened
  unfold writeFile
  rw [run_bind_eq, opened]
  dsimp only
  rw [run_append]
  split <;> exact ⟨_, rfl⟩

theorem Adds.writeFile {path : Path} (adds : Adds before added files) (sited : before.Sited root site)
    (proper : ∀ name ∈ front ++ [last], ProperName name) (spelled : path = root.within (front ++ [last]))
    (free : ∀ mode content, before.get? (site ++ (front ++ [last])) ≠ some (.file mode content))
    (ran : (FileSystem.writeFile path .empty).run files = (outcome, after)) :
    (∃ error, outcome = .error error ∧ after = files) ∨
      outcome = .ok () ∧ Taken root (front ++ [last]) ∧
        Adds before (fun location => added location ∨ location = site ++ (front ++ [last])) after := by
  subst spelled
  refine ((adds.sited sited).writeFile_within proper ran).imp_right ?_
  rintro ⟨done, taken, home, mode, was, shown⟩
  refine ⟨done, taken, ?_⟩
  by_cases new : added (site ++ (front ++ [last]))
  · have filled := adds.filled _ new
    have usual : mode = newFileMode := by
      rcases was with ⟨-, usual⟩ | ⟨content, there⟩
      · exact usual
      · rw [filled] at there
        cases there
        rfl
    subst usual
    have same : Adds files (fun _ => False) after := by
      refine ⟨home, by simp, by simp, fun location _ => ?_⟩
      rw [shown]
      split
      next here => rw [here, filled]
      next => rfl
    refine (adds.trans same).congr fun location => ?_
    constructor
    · rintro (early | rfl)
      · exact .inl early
      · exact .inl new
    · rintro (early | none)
      · exact .inl early
      · exact none.elim
  · have vacant : files.get? (site ++ (front ++ [last])) = none ∧ mode = newFileMode := by
      rcases was with vacant | ⟨content, there⟩
      · exact vacant
      · rw [adds.kept _ new] at there
        exact absurd there (free mode content)
    obtain ⟨vacant, rfl⟩ := vacant
    refine adds.trans ⟨home, ?_, ?_, ?_⟩
    · rintro location rfl
      exact vacant
    · rintro location rfl
      rw [shown, if_pos rfl]
    · intro location apart
      rw [shown, if_neg apart]

end WheelInstaller.FileSystem
