import WheelInstaller.Proofs.FileSystem.Anchor
import WheelInstaller.Proofs.FileSystem.Linked

/-! Directories that are there, and those that are made where nothing was found. To make one again is refused, and
nothing changes: whatever links a walk follows, it comes to its last step through a directory. Unless the path leads
up through what has to be made itself, nothing else is made but what is above. -/

namespace WheelInstaller.FileSystem

variable {files : FileSystem} {path : Path}

theorem nodeIn_of_walkBy {links left : Nat} {here location : Location} {rest : List String}
    {name : String} {node : Node}
    (strict : rest = [] ∨ rest = ["."]) (notCurrent : name ≠ ".") (notParent : name ≠ "..")
    (walked : walkBy files.get? true links here (name :: rest) = .ok (.occupied location node, left)) :
    ∃ found, files.nodeIn here name = .ok (some found) := by
  rw [walkBy] at walked
  simp only [notCurrent, notParent, if_false] at walked
  unfold nodeIn
  rcases strict with rfl | rfl <;> grind

theorem spot_of_isDirectory (there : files.isDirectory path = true) :
    ∃ spot, files.spot path = .ok spot ∧
      ∀ name, spot.last = .name name → ∃ node, files.nodeIn spot.directory name = .ok (some node) := by
  obtain ⟨site, found⟩ := status_of_isDirectory there
  obtain ⟨checked, left, walked⟩ := status_eq_walkBy.mp found
  obtain ⟨dots, only, strict⟩ := path.strictSteps_eq
  -- The steps before the last one lead to a directory.
  have front : ∃ directory remaining,
      walkBy files.get? true linkLimit (files.origin path) path.steps.dropLast =
      .ok (.occupied directory .directory, remaining) ∧
        ∀ name, lastStep path.steps.getLast? = .name name → ∃ node, files.nodeIn directory name = .ok (some node) := by
    rcases List.eq_nil_or_concat' path.steps with none | ⟨before, last, split⟩
    · rw [none, List.dropLast_nil]
      have unnamed : ∀ name, lastStep ([] : List String).getLast? ≠ .name name := by simp [lastStep]
      rw [strict, none] at walked
      rcases only with rfl | rfl
      · exact ⟨site, left, walked, fun name named => absurd named (unnamed name)⟩
      · obtain ⟨middle, remaining, first, -⟩ := walkBy_through walked
        exact ⟨middle, remaining, first, fun name named => absurd named (unnamed name)⟩
    · rw [strict, split, List.append_assoc] at walked
      obtain ⟨middle, remaining, first, final⟩ := walkBy_through walked
      refine ⟨middle, remaining, by rwa [split, List.dropLast_concat], fun name found => ?_⟩
      obtain ⟨same, notCurrent, notParent⟩ := lastStep_eq_name found
      rw [split, List.getLast?_concat] at same
      cases same
      exact nodeIn_of_walkBy only notCurrent notParent final
  obtain ⟨directory, remaining, first, last⟩ := front
  exact ⟨_, spot_of_walk checked first, last⟩

theorem makeDirectory_of_isDirectory (there : files.isDirectory path = true) :
    (makeDirectory path).run files = (.error .alreadyExists, files) := by
  obtain ⟨spot, found, inside⟩ := spot_of_isDirectory there
  unfold makeDirectory
  rw [run_bind_eq, run_inspect, found]
  dsimp only
  split
  next name last =>
    obtain ⟨node, known⟩ := inside name last
    rw [run_bind_eq, run_inspect, known]
    rfl
  next => rfl

/-! ### Directories in directories -/

variable {after : FileSystem} {error : OsError}

/-- The directory above a path is there, if there is one to name. -/
def Near (files : FileSystem) (path : Path) : Prop :=
  ∀ parent, path.parent? = some parent → parent.text ≠ "" → files.isDirectory parent = true

theorem makeDirectoriesWithin_of_isDirectory (there : files.isDirectory path = true) (count : Nat) :
    (makeDirectoriesWithin count path).run files = (.ok (), files) := by
  cases count with
  | zero => rfl
  | succ count =>
    unfold makeDirectoriesWithin
    rw [run_bind_eq, run_get]
    dsimp only
    rw [makeDirectory_of_isDirectory there]
    simp [there]

theorem text_parent_ne {parent : Path} (found : path.parent? = some parent) (more : 1 < path.components.length) :
    parent.text ≠ "" := by
  obtain ⟨last, split, -⟩ := Path.components_parent? found
  intro empty
  have nothing : parent.components = [] := by
    have : parent = ⟨""⟩ := by cases parent; simp_all
    rw [this, Path.components_empty]
  simp [split, nothing] at more

theorem makeDirectories_of_near (near : files.Near path) (told : path.components ≠ []) :
    (makeDirectories path).run files =
      match (makeDirectory path).run files with
      | (.ok _, after) => (.ok (), after)
      | (.error error, _) => if error = .alreadyExists && files.isDirectory path then (.ok (),
        files) else (.error error, files) := by
  -- What is above the path is there, so it is not made.
  have above (count : Nat) (bound : count < path.components.length) :
      (makeDirectoriesWithin count (path.parent?.getD ⟨""⟩)).run files = (.ok (), files) := by
    cases count with
    | zero => rfl
    | succ count =>
      cases found : path.parent? with
      | none => rcases Path.parent?_eq_none found with bare | bare <;> simp [bare] at bound
      | some parent =>
          exact makeDirectoriesWithin_of_isDirectory (near parent found (text_parent_ne found (by omega))) _
  obtain ⟨count, length⟩ : ∃ count, path.components.length = count + 1 :=
    Nat.exists_eq_succ_of_ne_zero (by simpa using told)
  unfold makeDirectories
  rw [length, makeDirectoriesWithin, run_bind_eq, run_get]
  dsimp only
  cases made : (makeDirectory path).run files with
  | mk outcome after =>
  cases outcome with
  | ok => rfl
  | error error =>
    cases makeDirectory_error made
    by_cases missing : error = .notFound
    · subst missing
      dsimp only
      rw [run_bind_eq, above count (by omega)]
      dsimp only
      rw [run_bind_eq, run_get]
      dsimp only
      rw [made]
      rfl
    · cases error with
      | notFound => exact absurd rfl missing
      | _ =>
        dsimp only
        split <;> rfl

theorem makeDirectories_unmade (near : files.Near path)
    (failed : (makeDirectories path).run files = (.error error, after)) :
    after = files := by
  by_cases told : path.components = []
  · unfold makeDirectories at failed
    rw [told] at failed
    cases failed
  · rw [makeDirectories_of_near near told] at failed
    split at failed
    · cases failed
    · split at failed
      · cases failed
      · cases failed
        rfl

/-! ### Directories that are made -/

theorem makeDirectories_near (plain : files.Plain) (absent : files.exists? path = false) (told : path.components ≠ [])
    (near : files.Near path) (done : (makeDirectories path).run files = (.ok (), after)) :
    files.get? (path.locate files.home) = none ∧ (∃ directory name, files.Anchored path directory name) ∧
      ∀ other, after.get? other = if other = path.locate files.home then some .directory else files.get? other := by
  rw [makeDirectories_of_near near told] at done
  split at done
  next made =>
    cases done
    exact anchored_of_makeDirectory plain made
  next =>
    split at done
    next there =>
      simp only [Bool.and_eq_true] at there
      cases absent.symm.trans (exists?_of_isDirectory there.2)
    next => cases done

theorem vacant_of_grows {fresh : Location → Prop} (plain : files.Plain) (absent : files.exists? path = false)
    (straight : path.Straight) (grows : files.Grows fresh after) (there : after.isDirectory path = true) :
    files.get? (path.locate files.home) = none := by
  have found := get?_of_isDirectory grows.plain there
  rw [grows.home] at found
  cases occupied : files.get? (path.locate files.home) with
  | none => rfl
  | some node =>
    cases (grows.kept occupied).symm.trans found
    obtain ⟨checked, short, -⟩ := (exists?_of_straight grows.plain straight).mp (exists?_of_isDirectory there)
    cases absent.symm.trans ((exists?_of_straight plain straight).mpr ⟨checked, short, _, occupied, fun _ => rfl⟩)

theorem makeDirectories_straight (plain : files.Plain) (absent : files.exists? path = false)
    (told : path.components ≠ [])
    (straight : path.Straight) (done : (makeDirectories path).run files = (.ok (), after)) :
    files.get? (path.locate files.home) = none ∧ files.Grows (· <+: path.locate files.home) after := by
  obtain ⟨grows, there⟩ := makeDirectories_run plain done
  exact ⟨vacant_of_grows plain absent straight grows (there rfl told), grows.weaken fun _ => straight.passes⟩

theorem makeDirectories_fresh (plain : files.Plain) (absent : files.exists? path = false) (told : path.components ≠ [])
    (fit : path.Straight ∨ files.Near path) (done : (makeDirectories path).run files = (.ok (), after)) :
    files.get? (path.locate files.home) = none ∧ files.Grows (· <+: path.locate files.home) after := by
  rcases fit with straight | near
  · exact makeDirectories_straight plain absent told straight done
  · obtain ⟨vacant, -, get?⟩ := makeDirectories_near plain absent told near done
    have grows := (makeDirectories_run plain done).1
    refine ⟨vacant, grows.plain, grows.home, fun location => ?_⟩
    rw [get?]
    split
    next here => exact .inr ⟨here ▸ List.prefix_refl _, here ▸ vacant, rfl⟩
    next => exact .inl rfl

theorem makeDirectory_div (plain : files.Plain) (there : files.isDirectory path = true) {name : String}
    (proper : ProperName name) (short : name.utf8ByteSize ≤ Path.longestName) :
    ((makeDirectory (path / name)).run files).1 ≠ .error .notFound := by
  have filled := Path.filled_of_check (leads_of_isDirectory plain there).1
  cases checked : (path / name).check with
  | ok =>
    have anchored := anchored_div plain there proper checked short
    unfold makeDirectory
    rw [run_bind_eq, run_inspect, anchored.spot plain]
    dsimp only
    rw [run_bind_eq, run_inspect, anchored.nodeIn]
    cases files.get? ((path / name).locate files.home) <;> simp
  | error error =>
    have spot : files.spot (path / name) = .error error := by
      unfold FileSystem.spot spotFrom
      rw [checked]
      rfl
    unfold makeDirectory
    rw [run_bind_eq, run_inspect, spot]
    intro missing
    cases missing
    refine Path.check_ne_notFound (fun empty => ?_) checked
    obtain ⟨letters, text, -⟩ := Path.text_div filled proper
    simp [empty] at text

/-- In a directory that is there, a directory is made where nothing was, or nothing is. -/
theorem makeDirectories_div (plain : files.Plain) (there : files.isDirectory path = true) {name : String}
    (proper : ProperName name)
    (short : name.utf8ByteSize ≤ Path.longestName) (vacant : files.get? (path.locate files.home ++ [name]) = none)
    {outcome : Except OsError Unit} (done : (makeDirectories (path / name)).run files = (outcome, after)) :
    outcome = .ok () ∧ (makeDirectory (path / name)).run files = (.ok (), after) ∨
      (∃ error, outcome = .error error) ∧ after = files := by
  have told : (path / name).components.length = path.components.length + 1 := by simp [Path.components_div proper]
  have made := makeDirectory_div plain there proper short
  unfold makeDirectories at done
  rw [told, makeDirectoriesWithin, run_bind_eq, run_get] at done
  dsimp only at done
  split at done
  next files' ran =>
    rw [run_set] at done
    cases done
    exact .inl ⟨rfl, ran⟩
  next missing =>
    rw [missing] at made
    exact absurd rfl made
  next error middle known failed =>
    right
    cases makeDirectory_error failed
    obtain ⟨same, ends⟩ := run_unless_there done
    refine ⟨?_, same⟩
    cases outcome with
    | error error => exact ⟨error, rfl⟩
    | ok =>
      have found := get?_of_isDirectory plain (ends rfl)
      rw [Path.locate_div proper, vacant] at found
      cases found

end WheelInstaller.FileSystem
