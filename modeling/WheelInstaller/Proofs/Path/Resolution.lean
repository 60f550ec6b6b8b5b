import WheelInstaller.Proofs.Path.Components

/-! Relative paths resolved without a file system. Such a path climbs some steps and then goes down through names, and
lies below another one if it goes on from there. The check for that takes back two climbs in a row, so of the climbs
of a path it only knows whether their number is even: it is right for paths that climb equally far, or at most once. -/

namespace WheelInstaller.Path

/-- Where a relative path leads: so many steps up, and then down through these names. -/
structure Course where
  climbs : Nat
  names : List String
deriving DecidableEq, Repr

namespace Course

/-- Goes on by one component. A `..` takes back the latest name, and where there is none it is one more step up. -/
def follow (course : Course) : Component → Course
  | .root | .current => course
  | .parent =>
    if course.names = [] then { course with climbs := course.climbs + 1 }
    else { course with names := course.names.dropLast }
  | .name value => { course with names := course.names ++ [value] }

/-- The steps that are left. -/
def steps (course : Course) : List Component :=
  List.replicate course.climbs .parent ++ course.names.map .name

/-- The steps of the first are those of the second and at least one more. -/
def Below (course above : Course) : Prop :=
  above.steps <+: course.steps ∧ above.steps ≠ course.steps

instance (course above : Course) : Decidable (course.Below above) :=
  inferInstanceAs (Decidable (_ ∧ _))

/-- The course without any two climbs in a row. -/
def unpaired (course : Course) : Course :=
  { course with climbs := course.climbs % 2 }

end Course

/-- The course of a relative path. -/
def course (path : Path) : Course :=
  path.components.foldl Course.follow ⟨0, []⟩

variable {path directory relative : Path} {onward above : Course} {component : Component} {components : List Component}
  {names : List String}

/-! ### What is resolved -/

theorem step_unpaired (noRoot : component ≠ .root) :
    step onward.unpaired.steps.reverse component = (onward.follow component).unpaired.steps.reverse := by
  obtain ⟨climbs, names⟩ := onward
  cases component with
  | root => exact absurd rfl noRoot
  | current => rfl
  | name value => simp [step, Course.follow, Course.unpaired, Course.steps]
  | parent =>
    rcases List.eq_nil_or_concat' names with rfl | ⟨front, last, rfl⟩
    · -- A step up that is the only one left is taken back by the next.
      rcases Nat.mod_two_eq_zero_or_one climbs with even | odd
      · have next : (climbs + 1) % 2 = 1 := by omega
        simp [step, Course.follow, Course.unpaired, Course.steps, even, next]
      · have next : (climbs + 1) % 2 = 0 := by omega
        simp [step, Course.follow, Course.unpaired, Course.steps, odd, next]
    · simp [step, Course.follow, Course.unpaired, Course.steps]

theorem foldl_step_unpaired (course : Course) (noRoot : .root ∉ components) :
    components.foldl step course.unpaired.steps.reverse =
    (components.foldl Course.follow course).unpaired.steps.reverse := by
  induction components generalizing course with
  | nil => rfl
  | cons component rest ih =>
    rw [List.mem_cons, not_or] at noRoot
    rw [List.foldl_cons, List.foldl_cons, step_unpaired (Ne.symm noRoot.1), ih _ noRoot.2]

theorem resolved_eq_unpaired (open_ : path.isAbsolute = false) : path.resolved = path.course.unpaired.steps := by
  have folded : path.components.foldl step [] = path.course.unpaired.steps.reverse :=
    foldl_step_unpaired ⟨0, []⟩ (root_not_mem_components open_)
  rw [resolved, folded, List.reverse_reverse]

theorem isStrictlyUnder_iff :
    path.isStrictlyUnder directory = true ↔ directory.resolved <+: path.resolved ∧
    directory.resolved ≠ path.resolved := by
  unfold isStrictlyUnder
  rw [Bool.and_eq_true, List.isPrefixOf_iff_prefix, decide_eq_true_eq]
  refine and_congr_right fun continues => ?_
  constructor
  · intro longer same
    rw [same] at longer
    exact lt_irrefl _ longer
  · exact fun differs => lt_of_le_of_ne continues.length_le fun same => differs (continues.eq_of_length same)

theorem isStrictlyUnder_iff_unpaired (open_ : path.isAbsolute = false) (openAbove : directory.isAbsolute = false) :
    path.isStrictlyUnder directory = true ↔ path.course.unpaired.Below directory.course.unpaired := by
  rw [isStrictlyUnder_iff, resolved_eq_unpaired open_, resolved_eq_unpaired openAbove]
  rfl

/-! ### Paths that climb alike -/

theorem Course.unpaired_eq_self (once : onward.climbs ≤ 1) : onward.unpaired = onward := by
  have same : onward.climbs % 2 = onward.climbs := Nat.mod_eq_of_lt (by omega)
  rw [unpaired, same]

theorem Course.below_iff_names (level : onward.climbs = above.climbs) :
    onward.Below above ↔ above.names <+: onward.names ∧ above.names ≠ onward.names := by
  have distinct : Function.Injective Component.name := fun _ _ => Component.name.inj
  unfold Below steps
  rw [level, List.prefix_append_right_inj, Ne, List.append_right_inj, distinct.list_map.eq_iff,
    List.prefix_map_iff_of_injective distinct]

theorem Course.below_unpaired_iff (level : onward.climbs = above.climbs) : onward.unpaired.Below above.unpaired ↔
    onward.Below above := by
  rw [below_iff_names level]
  exact below_iff_names (congrArg (· % 2) level)

theorem Extends.course {base : Path} (below : base.Extends names path) :
    path.course = { base.course with names := base.course.names ++ names } := by
  have added (names : List String) (course : Course) :
      (names.map .name).foldl Course.follow course = { course with names := course.names ++ names } := by
    induction names generalizing course with
    | nil => simp
    | cons name rest ih => simp [Course.follow, ih]
  rw [Path.course, show path.components = _ from below, List.foldl_append, added]
  rfl

/-- Of what relative paths climb, the check for one below another knows only whether it is even. It gives the right
answer for paths that climb equally far, as a path does that has only names more than a directory, and for those that
climb at most once. -/
theorem isStrictlyUnder_climbing (path directory : Path) (open_ : path.isAbsolute = false)
    (openAbove : directory.isAbsolute = false) :
    (path.isStrictlyUnder directory = true ↔ path.course.unpaired.Below directory.course.unpaired) ∧
      (path.course.climbs = directory.course.climbs ∨ path.course.climbs ≤ 1 ∧ directory.course.climbs ≤ 1 →
        (path.isStrictlyUnder directory = true ↔ path.course.Below directory.course)) ∧
      ∀ relative : Path, relative.Plain → (directory.join relative).course.climbs = directory.course.climbs := by
  refine ⟨isStrictlyUnder_iff_unpaired open_ openAbove, fun alike => ?_, fun relative plain => ?_⟩
  · rw [isStrictlyUnder_iff_unpaired open_ openAbove]
    rcases alike with level | ⟨once, onceAbove⟩
    · exact Course.below_unpaired_iff level
    · rw [Course.unpaired_eq_self once, Course.unpaired_eq_self onceAbove]
  · obtain ⟨names, same, -⟩ := plain.names
    have below : directory.Extends names (directory.join relative) := extends_join same
    rw [below.course]

theorem isStrictlyUnder_climbing_once :
    let path : Path := ⟨"../a/./b/../../a//c"⟩
    let directory : Path := ⟨"x/../../a"⟩
    path.isAbsolute = false ∧ directory.isAbsolute = false ∧ path.course = ⟨1, ["a", "c"]⟩ ∧
      directory.course = ⟨1, ["a"]⟩ ∧
      path.isStrictlyUnder directory = true := by
  intro path directory
  have open_ : path.isAbsolute = false := by decide +kernel
  have openAbove : directory.isAbsolute = false := by decide +kernel
  have course : path.course = ⟨1, ["a", "c"]⟩ := by decide +kernel
  have above : directory.course = ⟨1, ["a"]⟩ := by decide +kernel
  have right := (isStrictlyUnder_climbing path directory open_ openAbove).2.1 (.inl (by rw [course, above]))
  refine ⟨open_, openAbove, course, above, right.mpr ?_⟩
  rw [course, above]
  decide

/-- Two steps up are taken for none: what lies beside the parent directory is taken to lie below a directory here, and
what lies two levels up is not taken to be anywhere else. -/
theorem isStrictlyUnder_climbing_twice :
    ¬ ((⟨"../../a/b"⟩ : Path).isStrictlyUnder ⟨"a"⟩ = true ↔
      (⟨"../../a/b"⟩ : Path).course.Below (⟨"a"⟩ : Path).course) ∧
      ¬ ((⟨"../.."⟩ : Path).isStrictlyUnder ⟨""⟩ = true ↔ (⟨"../.."⟩ : Path).course.Below (⟨""⟩ : Path).course) := by
  decide +kernel

end WheelInstaller.Path
