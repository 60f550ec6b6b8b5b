import WheelInstaller.Host.World
import WheelInstaller.Proofs.FileSystem.Anchor
import WheelInstaller.Proofs.FileSystem.Changes

/-! What a registry holds after any additions and removals, and what cleaning up takes away. Whatever the order in
which noted paths lie in each other, all that is at or below them goes, and nothing else. So as long as everything new
lies at or below noted paths, and nothing old does, all is as it was once the noted paths are removed. -/

namespace WheelInstaller

namespace Path

variable {path above : Path} {home : Location}

/-- The path continues the other one by at least one step. -/
def LiesBelow (path above : Path) : Prop :=
  above.components <+: path.components ∧ above.components ≠ path.components

instance : Decidable (path.LiesBelow above) :=
  inferInstanceAs (Decidable (_ ∧ _))

theorem same_iff : path.same above = true ↔ path.components = above.components := by
  simp [same]

theorem Plain.straight (plain : path.Plain) : path.Straight := by
  intro member
  obtain ⟨name, same⟩ := plain .parent member
  cases same

theorem Plain.locate (plain : path.Plain) (home : Location) :
    ∃ names : List String, path.components = names.map .name ∧ path.locate home = home ++ names := by
  obtain ⟨names, same, -⟩ := plain.names
  exact ⟨names, same, by rw [Path.locate, same, foldl_stepFrom_names]⟩

theorem Plain.locate_ne_nil (plain : path.Plain) (filled : path.text ≠ "") : path.locate home ≠ [] := by
  obtain ⟨names, same, located⟩ := plain.locate home
  have some := components_ne_nil filled
  rw [same] at some
  rw [located]
  simp_all

theorem Plain.locate_prefix (plain : path.Plain) (also : above.Plain) :
    above.locate home <+: path.locate home ↔ above.components <+: path.components := by
  obtain ⟨names, same, located⟩ := plain.locate home
  obtain ⟨others, alike, above⟩ := also.locate home
  rw [located, above, same, alike, List.prefix_append_right_inj]
  exact (List.prefix_map_iff_of_injective fun _ _ => Component.name.inj).symm

end Path

namespace FileSystem

variable {files after : FileSystem} {path other : Path}

/-- Something is at the end of the path, and a directory if the path asks for one. It need not be found there: the path
can be too long for that. -/
def Has (files : FileSystem) (path : Path) : Prop :=
  ∃ node ∈ files.get? (path.locate files.home), path.strictSteps.getLast? = some "." → node.isDirectory = true

instance : Decidable (files.Has path) :=
  inferInstanceAs (Decidable (∃ node ∈ files.get? (path.locate files.home), _ → _))

theorem has_congr (home : after.home = files.home)
    (same : after.get? (path.locate files.home) = files.get? (path.locate files.home)) :
    after.Has path ↔ files.Has path := by
  unfold Has
  rw [home, same]

theorem not_has_of_absent (absent : files.get? (path.locate files.home) = none) : ¬ files.Has path := by
  simp [Has, absent]

theorem exists?_iff_has (plain : files.Plain) (straight : path.Straight) : files.exists? path = true ↔
    path.check = .ok () ∧ (∀ step ∈ path.strictSteps, step.utf8ByteSize ≤ Path.longestName) ∧ files.Has path := by
  have directory (node : Node) : node.isDirectory = true ↔ node = .directory := by
    cases node <;> simp [Node.isDirectory]
  simp only [exists?_of_straight plain straight, Has, directory, Option.mem_def]

theorem Has.above (has : files.Has path) (named : path.Plain) (also : other.Plain) (below : path.LiesBelow other) :
    files.Has other := by
  obtain ⟨node, found, -⟩ := has
  obtain ⟨rest, split⟩ := (named.locate_prefix also).mpr below.1
  have directory : files.get? (other.locate files.home) = some .directory := by
    refine get?_above (by rw [split, found]; simp) ?_
    rintro rfl
    have back : path.components <+: other.components := (also.locate_prefix named).mp (by rw [← split]; simp)
    exact below.2 (below.1.eq_of_length_le back.length_le)
  exact ⟨_, directory, fun _ => rfl⟩

end FileSystem

namespace Registry

/-! ### Additions and removals -/

/-- What is done to a registry. -/
inductive Change where
  | add (path : Path)
  | remove (path : Path)
deriving DecidableEq, Repr

def Change.path : Change → Path
  | .add path | .remove path => path

def change (registry : Registry) : Change → Registry
  | .add path => registry.add path
  | .remove path => registry.remove path

/-- The registry after changes to an empty one. -/
def ofChanges (changes : List Change) : Registry :=
  changes.foldl change {}

/-- The path was added, and not removed after that. -/
def Noted (changes : List Change) (path : Path) : Prop :=
  ∃ (index : Nat) (known : Path), changes[index]? = some (.add known) ∧ known.same path = true ∧
    ∀ (later : Nat) (gone : Path), index < later → changes[later]? = some (.remove gone) → path.same gone = false

/-- At this point the path was added when it was not there: whatever had added it before was undone in between. It was
not removed since. -/
structure Stands (changes : List Change) (index : Nat) (path : Path) : Prop where
  added : changes[index]? = some (.add path)
  first : ∀ (earlier : Nat) (known : Path), earlier < index → changes[earlier]? = some (.add known) →
    known.same path = true → ∃ (between : Nat) (gone : Path), earlier < between ∧ between < index ∧
      changes[between]? = some (.remove gone) ∧ path.same gone = true
  kept : ∀ (later : Nat) (gone : Path), index < later → changes[later]? = some (.remove gone) → path.same gone = false

variable {registry : Registry} {changes : List Change} {last found : Change} {path other : Path} {index : Nat}

theorem mem_add (member : other ∈ (registry.add path).paths) : other ∈ registry.paths ∨ other = path := by
  unfold add at member
  split at member
  · exact .inl member
  · simpa using member

theorem mem_remove : other ∈ (registry.remove path).paths ↔ other ∈ registry.paths ∧ other.same path = false := by
  simp [remove]

theorem exists_add_iff : (∃ known ∈ (registry.add other).paths, known.same path = true) ↔
    (∃ known ∈ registry.paths, known.same path = true) ∨ other.same path = true := by
  unfold add
  split
  next there =>
    refine (or_iff_left_of_imp fun same => ?_).symm
    obtain ⟨known, member, alike⟩ := List.any_eq_true.mp there
    exact ⟨known, member, Path.same_iff.mpr ((Path.same_iff.mp alike).trans (Path.same_iff.mp same))⟩
  next => simp [or_and_right, exists_or]

theorem exists_remove_iff : (∃ known ∈ (registry.remove other).paths, known.same path = true) ↔
    (∃ known ∈ registry.paths, known.same path = true) ∧ path.same other = false := by
  have alike {known : Path} (same : known.same path = true) : known.same other = path.same other := by
    unfold Path.same
    rw [Path.same_iff.mp same]
  constructor
  · rintro ⟨known, member, same⟩
    obtain ⟨member, differs⟩ := mem_remove.mp member
    exact ⟨⟨known, member, same⟩, alike same ▸ differs⟩
  · rintro ⟨⟨known, member, same⟩, differs⟩
    exact ⟨known, mem_remove.mpr ⟨member, (alike same).trans differs⟩, same⟩

theorem ofChanges_concat : ofChanges (changes ++ [last]) = (ofChanges changes).change last := by
  simp [ofChanges]

theorem lt_of_getElem? (told : changes[index]? = some found) : index < changes.length :=
  (List.getElem?_eq_some_iff.mp told).1

theorem getElem?_concat_eq_some :
    (changes ++ [last])[index]? = some found ↔ changes[index]? = some found ∨
    index = changes.length ∧ last = found := by
  rcases lt_trichotomy index changes.length with inside | rfl | outside
  · simp [List.getElem?_append_left inside, inside.ne]
  · simp
  · rw [List.getElem?_eq_none (by simp; omega), List.getElem?_eq_none outside.le]
    simp [outside.ne']

theorem noted_concat_add : Noted (changes ++ [.add other]) path ↔ Noted changes path ∨ other.same path = true := by
  simp only [Noted, getElem?_concat_eq_some, reduceCtorEq, and_false, or_false]
  constructor
  · rintro ⟨index, known, told | ⟨rfl, added⟩, same, kept⟩
    · exact .inl ⟨index, known, told, same, kept⟩
    · exact .inr (Change.add.inj added ▸ same)
  · rintro (⟨index, known, told, same, kept⟩ | same)
    · exact ⟨index, known, .inl told, same, kept⟩
    · exact ⟨_, other, .inr ⟨rfl, rfl⟩, same, fun later gone after told => absurd (lt_of_getElem? told) after.not_gt⟩

theorem noted_concat_remove : Noted (changes ++ [.remove other]) path ↔ Noted changes path ∧
    path.same other = false := by
  simp only [Noted, getElem?_concat_eq_some, reduceCtorEq, and_false, or_false]
  constructor
  · rintro ⟨index, known, told, same, kept⟩
    have last := kept changes.length other (lt_of_getElem? told) (.inr ⟨rfl, rfl⟩)
    exact ⟨⟨index, known, told, same, fun later gone after removed => kept later gone after (.inl removed)⟩, last⟩
  · rintro ⟨⟨index, known, told, same, kept⟩, last⟩
    refine ⟨index, known, told, same, ?_⟩
    rintro later gone after (removed | ⟨-, removed⟩)
    · exact kept later gone after removed
    · exact Change.remove.inj removed ▸ last

theorem exists_same_iff_noted : (∃ known ∈ (ofChanges changes).paths, known.same path = true) ↔ Noted changes path := by
  induction changes using List.reverseRecOn with
  | nil => simp [ofChanges, Noted]
  | append_singleton changes last ih =>
    rw [ofChanges_concat]
    cases last with
    | add other => rw [noted_concat_add, ← ih]; exact exists_add_iff
    | remove other => rw [noted_concat_remove, ← ih]; exact exists_remove_iff

theorem stands_concat_of_lt (inside : index < changes.length) : Stands (changes ++ [last]) index path ↔
    Stands changes index path ∧ ∀ gone, last = .remove gone → path.same gone = false := by
  have told {earlier : Nat} (before : earlier ≤ index) : (changes ++ [last])[earlier]? = changes[earlier]? :=
    List.getElem?_append_left (before.trans_lt inside)
  constructor
  · rintro ⟨added, first, kept⟩
    refine ⟨⟨told le_rfl ▸ added, fun earlier known before found same => ?_, fun later gone after removed => ?_⟩,
      fun gone removed => ?_⟩
    · obtain ⟨between, gone, after, until_, removed, undone⟩ :=
        first earlier known before ((told before.le).trans found) same
      exact ⟨between, gone, after, until_, told until_.le ▸ removed, undone⟩
    · exact kept later gone after (getElem?_concat_eq_some.mpr (.inl removed))
    · exact kept changes.length gone inside (getElem?_concat_eq_some.mpr (.inr ⟨rfl, removed⟩))
  · rintro ⟨⟨added, first, kept⟩, spared⟩
    refine ⟨(told le_rfl).trans added, fun earlier known before found same => ?_, fun later gone after found => ?_⟩
    · obtain ⟨between, gone, after, until_, removed, undone⟩ := first earlier known before (told before.le ▸ found) same
      exact ⟨between, gone, after, until_, (told until_.le).trans removed, undone⟩
    · rcases getElem?_concat_eq_some.mp found with removed | ⟨-, removed⟩
      · exact kept later gone after removed
      · exact spared gone removed

theorem stands_concat_length :
    Stands (changes ++ [last]) changes.length path ↔ last = .add path ∧ ¬ Noted changes path := by
  have told {earlier : Nat} (before : earlier < changes.length) : (changes ++ [last])[earlier]? = changes[earlier]? :=
    List.getElem?_append_left before
  have added : (changes ++ [last])[changes.length]? = some (.add path) ↔ last = .add path := by simp
  constructor
  · rintro ⟨here, first, -⟩
    refine ⟨added.mp here, fun ⟨earlier, known, found, same, kept⟩ => ?_⟩
    have before := lt_of_getElem? found
    obtain ⟨between, gone, after, until_, removed, undone⟩ :=
      first earlier known before ((told before).trans found) same
    have spared := kept between gone after (told until_ ▸ removed)
    cases undone.symm.trans spared
  · rintro ⟨rfl, fresh⟩
    refine ⟨added.mpr rfl, fun earlier known before found same => ?_, fun later gone after found => ?_⟩
    · by_contra undone
      refine fresh ⟨earlier, known, told before ▸ found, same, fun later gone after removed => ?_⟩
      by_contra alike
      have inside := lt_of_getElem? removed
      exact undone ⟨later, gone, after, inside, (told inside).trans removed, by simpa using alike⟩
    · have inside := lt_of_getElem? found
      rw [List.length_append, List.length_singleton] at inside
      omega

theorem stands_concat : Stands (changes ++ [last]) index path ↔
    (Stands changes index path ∧ ∀ gone, last = .remove gone → path.same gone = false) ∨
      index = changes.length ∧ last = .add path ∧ ¬ Noted changes path := by
  constructor
  · intro stands
    rcases getElem?_concat_eq_some.mp stands.added with added | ⟨rfl, -⟩
    · exact .inl ((stands_concat_of_lt (lt_of_getElem? added)).mp stands)
    · exact .inr ⟨rfl, stands_concat_length.mp stands⟩
  · rintro (⟨stands, spared⟩ | ⟨rfl, added⟩)
    · exact (stands_concat_of_lt (lt_of_getElem? stands.added)).mpr ⟨stands, spared⟩
    · exact stands_concat_length.mpr added

/-- These are all points that stand, in order, and the registry holds their paths. -/
structure Standing (changes : List Change) (entries : List (Nat × Path)) : Prop where
  ordered : entries.Pairwise (·.1 < ·.1)
  paths : entries.map (·.2) = (ofChanges changes).paths
  mem_iff : ∀ index path, (index, path) ∈ entries ↔ Stands changes index path

variable {entries : List (Nat × Path)}

theorem Standing.add_noted (standing : Standing changes entries) (noted : Noted changes other) :
    Standing (changes ++ [.add other]) entries := by
  refine ⟨standing.ordered, ?_, fun index path => ?_⟩
  · obtain ⟨known, inside, same⟩ := exists_same_iff_noted.mpr noted
    rw [standing.paths, ofChanges_concat, change, add, if_pos (List.any_eq_true.mpr ⟨known, inside, same⟩)]
  · rw [standing.mem_iff, stands_concat]
    simp only [reduceCtorEq, false_implies, implies_true, and_true, Change.add.injEq]
    refine (or_iff_left ?_).symm
    rintro ⟨-, rfl, fresh⟩
    exact fresh noted

theorem Standing.add_fresh (standing : Standing changes entries) (fresh : ¬ Noted changes other) :
    Standing (changes ++ [.add other]) (entries ++ [(changes.length, other)]) := by
  refine ⟨?_, ?_, fun index path => ?_⟩
  · refine List.pairwise_append.mpr ⟨standing.ordered, List.pairwise_singleton _ _, fun entry inside only here => ?_⟩
    cases List.mem_singleton.mp here
    exact lt_of_getElem? ((standing.mem_iff entry.1 entry.2).mp inside).added
  · have new : (ofChanges changes).paths.any (·.same other) = false := by
      rw [← Bool.not_eq_true, List.any_eq_true, exists_same_iff_noted]
      exact fresh
    simp [ofChanges_concat, change, add, new, standing.paths]
  · rw [List.mem_append, standing.mem_iff, List.mem_singleton, stands_concat]
    simp only [reduceCtorEq, false_implies, implies_true, and_true, Change.add.injEq, Prod.mk.injEq]
    refine or_congr_right (and_congr_right fun _ => ?_)
    constructor
    · rintro rfl
      exact ⟨rfl, fresh⟩
    · exact fun both => both.1.symm

theorem Standing.remove (standing : Standing changes entries) :
    Standing (changes ++ [.remove other]) (entries.filter fun entry => !entry.2.same other) := by
  refine ⟨standing.ordered.filter _, ?_, fun index path => ?_⟩
  · simp only [ofChanges_concat, change, Registry.remove, ← standing.paths, List.filter_map]
    rfl
  · simp [standing.mem_iff, stands_concat]

theorem exists_standing (changes : List Change) : ∃ entries, Standing changes entries := by
  induction changes using List.reverseRecOn with
  | nil => exact ⟨[], .nil, rfl, fun index path => ⟨nofun, fun stands => by cases stands.added⟩⟩
  | append_singleton changes last ih =>
    obtain ⟨entries, standing⟩ := ih
    cases last with
    | add other =>
      by_cases noted : Noted changes other
      · exact ⟨_, standing.add_noted noted⟩
      · exact ⟨_, standing.add_fresh noted⟩
    | remove other => exact ⟨_, standing.remove⟩

theorem distinct_ofChanges (changes : List Change) :
    (ofChanges changes).paths.Pairwise fun first second => first.same second = false := by
  induction changes using List.reverseRecOn with
  | nil => exact .nil
  | append_singleton changes last ih =>
    rw [ofChanges_concat]
    cases last with
    | add other =>
      unfold change add
      dsimp only
      split
      · exact ih
      next fresh =>
        refine List.pairwise_append.mpr ⟨ih, List.pairwise_singleton _ _, fun known member only here => ?_⟩
        cases List.mem_singleton.mp here
        by_contra alike
        exact fresh (List.any_eq_true.mpr ⟨known, member, by simpa using alike⟩)
    | remove other => exact ih.filter _

theorem plain_ofChanges (named : ∀ change ∈ changes, change.path.Plain) :
    ∀ path ∈ (ofChanges changes).paths, path.Plain := by
  induction changes using List.reverseRecOn with
  | nil => simp [ofChanges]
  | append_singleton changes last ih =>
    rw [List.forall_mem_append] at named
    rw [ofChanges_concat]
    intro path member
    cases last with
    | add other =>
      rcases mem_add member with member | rfl
      · exact ih named.1 path member
      · exact named.2 (.add path) (by simp)
    | remove other => exact ih named.1 path (mem_remove.mp member).1

/-! ### Removals from a file system -/

open FileSystem (Shrinks)

variable {before middle now : FileSystem} {noted rest : List Path} {directory location : Location} {name : String}

theorem shrinks_removePath (plain : now.Plain) (below : path.locate now.home ≠ []) :
    Shrinks (path.locate now.home <+: ·) now (removePath now path).2 := by
  unfold removePath
  split
  · cases done : (FileSystem.removeDirectory path).run now with
    | mk outcome after =>
    rcases FileSystem.removeDirectory_run plain below done with ⟨rfl, -⟩ | ⟨found, clears⟩
    · exact .refl plain
    · exact .of_clears found clears
  · split
    · cases done : (FileSystem.removeFile path).run now with
      | mk outcome after =>
      cases outcome with
      | ok => exact .of_removes (FileSystem.removeFile_ok plain done).2
      | error =>
        cases FileSystem.removeFile_error done
        exact .refl plain
    · exact .refl plain

theorem removePath_found (plain : now.Plain) (anchored : now.Anchored path directory name) {node : Node}
    (found : now.get? (path.locate now.home) = some node) (strict : path.hasTrailingSlash = true → node = .directory)
    (emptied : node = .directory → ∃ after, (FileSystem.removeDirectory path).run now = (.ok (), after) ∧
      now.Removes (path.locate now.home) after) :
    ∃ after, removePath now path = (true, after) ∧ now.Removes (path.locate now.home) after := by
  unfold removePath
  cases node with
  | link => exact absurd found plain.not_link
  | directory =>
    obtain ⟨after, done, removes⟩ := emptied rfl
    rw [anchored.isDirectory plain found, if_pos rfl, done]
    exact ⟨after, rfl, removes⟩
  | file mode content =>
    have slash : path.hasTrailingSlash = false := by
      by_contra slash
      cases strict (by simpa using slash)
    obtain ⟨after, done, removes⟩ := FileSystem.removeFile_anchored plain anchored slash found
    have file : now.isDirectory path = false := by
      by_contra directory
      cases found.symm.trans (FileSystem.get?_of_isDirectory plain (by simpa using directory))
    rw [file, if_neg (by simp), anchored.exists? plain found (by simp [slash]), if_pos rfl, done]
    exact ⟨after, rfl, removes⟩

/-- A path along which nothing leads up can be removed, as it does not lead through what is below it. -/
theorem removePath_anchored (plain : now.Plain) (anchored : now.Anchored path directory name) (straight : path.Straight)
    (has : now.Has path) : ∃ after, removePath now path = (true, after) ∧ now.Removes (path.locate now.home) after := by
  obtain ⟨node, found, strict⟩ := has
  refine removePath_found plain anchored found (fun slash => ?_) ?_
  · have last : path.strictSteps.getLast? = some "." := by
      unfold Path.strictSteps
      rw [if_pos slash, List.getLast?_concat]
    cases node <;> first | rfl | cases strict last
  · rintro rfl
    refine FileSystem.removeDirectory_still plain anchored found (anchored.elsewhere straight rfl ?_)
    rw [FileSystem.clear_home, FileSystem.get?_clear plain anchored.locate_ne_nil (by rw [found]; simp),
      if_neg (by simp), found]
    simp

/-- Plain paths that are found can all be removed, but those that are spelled with a `.` at their end. -/
theorem removePath_of_exists? (plain : now.Plain) (named : path.Plain) (last : path.steps.getLast? ≠ some ".")
    (there : now.exists? path = true) : (removePath now path).1 = true := by
  obtain ⟨checked, short, has⟩ := (FileSystem.exists?_iff_has plain named.straight).mp there
  have occupied : now.get? (path.locate now.home) ≠ none := fun absent => FileSystem.not_has_of_absent absent has
  have reached : path.locate now.home = FileSystem.settle (now.origin path) path.steps := Path.settle_steps.symm
  have onward {step : String} (member : step ∈ path.steps) := short step (path.steps_prefix_strictSteps.subset member)
  rcases List.eq_nil_or_concat' path.steps with none | ⟨front, name, steps⟩
  · obtain ⟨names, same, located⟩ := named.locate now.home
    have home : path.locate now.home = now.home := by
      rw [reached, none]
      simp [FileSystem.settle, FileSystem.origin, named.relative]
    have names : names = [] := by simpa [located] using home
    exact absurd (by simp [same, names]) (Path.components_ne_nil (Path.filled_of_check checked))
  · have proper : FileSystem.Named name := by
      refine ⟨by simpa [steps] using last, ?_, onward (by simp [steps])⟩
      rintro rfl
      exact named.straight.steps (by simp [steps])
    have holder : now.get? (FileSystem.settle (now.origin path) path.steps.dropLast) = some .directory := by
      rw [steps, FileSystem.settle_append, FileSystem.settle_name proper.notCurrent proper.notParent] at reached
      rw [steps, List.dropLast_concat]
      exact FileSystem.get?_above (reached ▸ occupied) (List.cons_ne_nil name [])
    have anchored := FileSystem.anchored_of_straight named.straight checked
      (fun step member => onward (List.dropLast_subset _ member)) (by simp [steps]) proper holder
    obtain ⟨after, done, -⟩ := removePath_anchored plain anchored named.straight has
    rw [done]

theorem removePath_absent (plain : now.Plain) (straight : path.Straight) (absent : ¬ now.Has path) :
    removePath now path = (false, now) := by
  have missing : now.exists? path = false := by
    by_contra there
    exact absent ((FileSystem.exists?_iff_has plain straight).mp (by simpa using there)).2.2
  have noDirectory : now.isDirectory path = false := by
    by_contra directory
    simp [FileSystem.exists?_of_isDirectory (by simpa using directory)] at missing
  simp [removePath, noDirectory, missing]

theorem anchored_of_removePath (plain : now.Plain) (named : path.Plain) (removed : (removePath now path).1 = true) :
    ∃ directory name, now.Anchored path directory name := by
  unfold removePath at removed
  split at removed
  next there =>
    cases done : (FileSystem.removeDirectory path).run now with
    | mk outcome after =>
    rw [done] at removed
    cases outcome with
    | error => cases removed
    | ok =>
      have checked := (FileSystem.leads_of_isDirectory plain there).1
      have below : path.locate now.home ≠ [] := named.locate_ne_nil (Path.filled_of_check checked)
      exact FileSystem.anchored_of_removeDirectory plain below named.straight done
  next =>
    split at removed
    · cases done : (FileSystem.removeFile path).run now with
      | mk outcome after =>
      rw [done] at removed
      cases outcome with
      | error => cases removed
      | ok => exact FileSystem.anchored_of_removeFile plain done
    · cases removed

/-- What was at or below noted paths is gone, and all else is as it was. -/
structure Cleared (before : FileSystem) (noted : List Path) (now : FileSystem) : Prop where
  plain : now.Plain
  home : now.home = before.home
  get? : ∀ location, now.get? location =
    if ∃ path ∈ noted, before.Has path ∧ path.locate before.home <+: location then none else before.get? location

theorem Cleared.not_has (cleared : Cleared before noted now) (member : path ∈ noted) : ¬ now.Has path := by
  rintro ⟨node, found, strict⟩
  rw [cleared.home, cleared.get?] at found
  split at found
  · cases found
  next spared => exact spared ⟨path, member, ⟨node, found, strict⟩, List.prefix_refl _⟩

/-- The paths that are there and do not lie below later ones. -/
def outermost (files : FileSystem) : List Path → List Path
  | [] => []
  | path :: later =>
    if files.Has path ∧ ∀ above ∈ later, ¬ path.LiesBelow above then path :: outermost files later
    else outermost files later

/-- A path is still there unless it went along with a later one that it lay below. -/
theorem Cleared.has_iff (cleared : Cleared before noted now) (named : path.Plain)
    (others : ∀ other ∈ noted, other.Plain) (fresh : ∀ other ∈ noted, path.same other = false) :
    now.Has path ↔ before.Has path ∧ ∀ above ∈ noted, ¬ path.LiesBelow above := by
  by_cases covered : ∃ above ∈ noted, before.Has above ∧ above.locate before.home <+: path.locate before.home
  · have absent : now.get? (path.locate now.home) = none := by rw [cleared.home, cleared.get?, if_pos covered]
    obtain ⟨above, member, has, higher⟩ := covered
    have below : path.LiesBelow above := by
      refine ⟨(named.locate_prefix (others above member)).mp higher, fun same => ?_⟩
      cases (fresh above member).symm.trans (Path.same_iff.mpr same.symm)
    exact iff_of_false (FileSystem.not_has_of_absent absent) fun both => both.2 above member below
  · have same : now.get? (path.locate before.home) = before.get? (path.locate before.home) := by
      rw [cleared.get?, if_neg covered]
    rw [FileSystem.has_congr cleared.home same]
    refine (and_iff_left_of_imp fun has above member below => covered ⟨above, member, ?_⟩).symm
    exact ⟨has.above named (others above member) below, (named.locate_prefix (others above member)).mpr below.1⟩

theorem cleared_removePath (cleared : Cleared before noted now) (named : path.Plain)
    (others : ∀ other ∈ noted, other.Plain) (fresh : ∀ other ∈ noted, path.same other = false)
    (removable : before.Has path → ∃ directory name, before.Anchored path directory name) :
    (removePath now path).1 = decide (before.Has path ∧ ∀ above ∈ noted, ¬ path.LiesBelow above) ∧
      Cleared before (path :: noted) (removePath now path).2 := by
  have here := cleared.has_iff named others fresh
  by_cases has : now.Has path
  · obtain ⟨was, -⟩ := here.mp has
    obtain ⟨directory, name, anchored⟩ := removable was
    have occupied : now.get? (path.locate now.home) ≠ none := fun absent => FileSystem.not_has_of_absent absent has
    obtain ⟨after, done, removes⟩ :=
      removePath_anchored cleared.plain (anchored.elsewhere named.straight cleared.home occupied) named.straight has
    rw [done]
    refine ⟨(decide_eq_true (here.mp has)).symm, removes.plain, removes.home.trans cleared.home, fun location => ?_⟩
    rw [removes.get?, cleared.get?, cleared.home]
    by_cases below : path.locate before.home <+: location <;> simp [below, was]
  · rw [removePath_absent cleared.plain named.straight has]
    refine ⟨(decide_eq_false (here.not.mp has)).symm, cleared.plain, cleared.home, fun location => ?_⟩
    rw [cleared.get?]
    refine if_congr ?_ rfl rfl
    rw [List.exists_mem_cons_iff]
    refine (or_iff_right_of_imp fun ⟨was, below⟩ => ?_).symm
    -- What was there and is not any longer lay below a later path, and so does all that lay below it.
    obtain ⟨above, member, higher⟩ : ∃ above ∈ noted, path.LiesBelow above := by
      by_contra none
      exact has (here.mpr ⟨was, fun above member higher => none ⟨above, member, higher⟩⟩)
    have upward : above.locate before.home <+: path.locate before.home :=
      (named.locate_prefix (others above member)).mpr higher.1
    exact ⟨above, member, was.above named (others above member) higher, upward.trans below⟩

theorem removePaths_append (first second : List Path) (now : FileSystem) :
    removePaths (first ++ second) now =
      let (count, middle) := removePaths first now
      (count + (removePaths second middle).1, (removePaths second middle).2) := by
  induction first generalizing now with
  | nil => simp [removePaths]
  | cons path first ih =>
    simp only [List.cons_append, removePaths, ih]
    split <;> simp [Nat.add_right_comm]

theorem cleared_cleanUp (plain : before.Plain) (named : ∀ path ∈ noted, path.Plain)
    (distinct : noted.Pairwise fun first second => first.same second = false)
    (removable : ∀ path ∈ noted, before.Has path → (removePath before path).1 = true) :
    (cleanUp ⟨noted⟩ before).1 = (outermost before noted).length ∧ Cleared before noted (cleanUp ⟨noted⟩ before).2 := by
  unfold cleanUp
  induction noted with
  | nil => exact ⟨rfl, plain, rfl, fun location => by simp [removePaths]⟩
  | cons path later ih =>
    rw [List.forall_mem_cons] at named removable
    obtain ⟨fresh, distinct⟩ := List.pairwise_cons.mp distinct
    obtain ⟨count, cleared⟩ := ih named.2 distinct removable.2
    obtain ⟨last, done⟩ := cleared_removePath cleared named.1 named.2 fresh fun has =>
      anchored_of_removePath plain named.1 (removable.1 has)
    rw [List.reverse_cons, removePaths_append]
    refine ⟨?_, done⟩
    simp only [removePaths, count, last, outermost, decide_eq_true_eq]
    split <;> simp

open Host (World)

/-- Whatever was noted and forgotten again, the registry holds what was added and not removed since, once each and in
order. If everything that is there under those paths can be removed, then cleaning up takes it away with all that is
below it, and changes nothing else; it counts the paths that were there and that no later path took along. -/
theorem cleanUp_removes_noted (changes : List Change) (named : ∀ change ∈ changes, change.path.Plain) :
    let registry := ofChanges changes
    (registry.paths.Pairwise fun first second => first.same second = false) ∧
    (∃ standing : List (Nat × Path), standing.Pairwise (·.1 < ·.1) ∧ standing.map (·.2) = registry.paths ∧
      ∀ index path, (index, path) ∈ standing ↔ Stands changes index path) ∧
    ∀ world : World, world.registry = registry → world.files.Plain →
      (∀ path ∈ registry.paths, world.files.Has path → (removePath world.files path).1 = true) →
      ∃ after, World.perform .cleanUp world = ((outermost world.files registry.paths).length, after) ∧
        after.registry = {} ∧ after.files.home = world.files.home ∧ (∀ path ∈ registry.paths, ¬ after.files.Has path) ∧
        ∀ location, after.files.get? location =
          if ∃ path ∈ registry.paths, world.files.Has path ∧ path.locate world.files.home <+: location then none
          else world.files.get? location := by
  intro registry
  obtain ⟨entries, standing⟩ := exists_standing changes
  refine ⟨distinct_ofChanges changes, ⟨entries, standing.ordered, standing.paths, standing.mem_iff⟩,
    fun world same plain removable => ?_⟩
  obtain ⟨count, cleared⟩ := cleared_cleanUp plain (plain_ofChanges named) (distinct_ofChanges changes) removable
  refine ⟨{ world with files := (registry.cleanUp world.files).2, registry := {} }, ?_, rfl, cleared.home,
    fun path => cleared.not_has, cleared.get?⟩
  rw [← count]
  simp only [World.perform, same]
  rfl

theorem cleanUp_removes_noted_nested :
    let changes : List Change :=
      [.add ⟨"a"⟩, .add ⟨"e"⟩, .remove ⟨"a"⟩, .add ⟨"a/b"⟩, .add ⟨"a"⟩, .add ⟨"a//b"⟩, .add ⟨"g"⟩]
    let file := Tree.file 0o644 .empty
    let inner := Tree.directory [("a", .directory [("b", .directory [("c", file)])]), ("e", file), ("f", file)]
    let world : World := { files := { top := .directory [("w", inner)], home := ["w"] }, registry := ofChanges changes }
    (∀ change ∈ changes, change.path.Plain) ∧ world.files.Plain ∧
      (∀ path ∈ world.registry.paths, world.files.Has path → (removePath world.files path).1 = true) ∧
      world.registry.paths = [⟨"e"⟩, ⟨"a/b"⟩, ⟨"a"⟩, ⟨"g"⟩] ∧
      ∃ after, World.perform .cleanUp world = ((2 : Nat), after) ∧ after.registry = {} ∧
        after.files.get? ["w", "a", "b", "c"] = none ∧ after.files.get? ["w", "f"] = some (.file 0o644 .empty) := by
  intro changes file inner world
  have named : ∀ change ∈ changes, change.path.Plain := by decide
  have paths : (ofChanges changes).paths = [⟨"e"⟩, ⟨"a/b"⟩, ⟨"a"⟩, ⟨"g"⟩] := by decide
  have plain : world.files.Plain := ⟨by decide, rfl⟩
  have removable : ∀ path ∈ (ofChanges changes).paths, world.files.Has path →
    (removePath world.files path).1 = true := by
    have fit : ∀ path ∈ ([⟨"e"⟩, ⟨"a/b"⟩, ⟨"a"⟩, ⟨"g"⟩] : List Path), path.steps.getLast? ≠ some "." ∧
        ('\x00' ∉ path.text.toList ∧ path.text ≠ "" ∧ path.text.utf8ByteSize ≤ Path.longest) ∧
        ∀ step ∈ path.strictSteps, step.utf8ByteSize ≤ Path.longestName := by decide +kernel
    intro path member has
    have named := plain_ofChanges named path member
    obtain ⟨last, text, short⟩ := fit path (paths ▸ member)
    have there := (FileSystem.exists?_iff_has plain named.straight).mpr ⟨Path.check_eq_ok.mpr text, short, has⟩
    exact removePath_of_exists? plain named last there
  obtain ⟨-, -, cleans⟩ := cleanUp_removes_noted changes named
  obtain ⟨after, done, emptied, -, -, found⟩ := cleans world rfl plain removable
  rw [paths] at done found
  have count : (outermost world.files [⟨"e"⟩, ⟨"a/b"⟩, ⟨"a"⟩, ⟨"g"⟩]).length = 2 := by decide
  rw [count] at done
  refine ⟨named, plain, removable, paths, after, done, emptied, (found _).trans (if_pos ?_),
    (found _).trans (if_neg ?_)⟩
  · decide
  · decide

/-! ### Removals of what is new -/

/-- A path at which there was nothing, although there could have been. What is there now can be found by it. -/
structure Removable (before : FileSystem) (path : Path) (now : FileSystem) : Prop where
  anchored : ∃ directory name, before.Anchored path directory name
  strict : path.hasTrailingSlash = true → ∀ mode content, now.get? (path.locate before.home) ≠ some (.file mode content)

/-- Everything new is at or below noted paths, where there was nothing. -/
structure Owed (before : FileSystem) (noted : List Path) (now : FileSystem) : Prop where
  plain : now.Plain
  home : now.home = before.home
  fresh : ∀ path ∈ noted, path.locate before.home ≠ [] ∧ before.get? (path.locate before.home) = none
  get? : ∀ location, now.get? location = before.get? location ∨
    ∃ path ∈ noted, Removable before path now ∧ path.locate before.home <+: location

theorem absent_below (vacant : before.get? location = none) {lower : Location} (below : location <+: lower) :
    before.get? lower = none := by
  obtain ⟨rest, rfl⟩ := below
  cases rest with
  | nil => simpa using vacant
  | cons next rest => exact FileSystem.get?_below (by simp [vacant]) (List.cons_ne_nil next rest)

theorem Owed.kept (owed : Owed before noted now) {node : Node} (found : before.get? location = some node) :
    now.get? location = some node := by
  rcases owed.get? location with same | ⟨path, member, -, below⟩
  · exact same.trans found
  · rw [absent_below (owed.fresh path member).2 below] at found
    cases found

theorem get?_removePath (owed : Owed before noted now) (removable : Removable before path now)
    (vacant : before.get? (path.locate before.home) = none) (below : path.locate before.home <+: location) :
    (removePath now path).2.get? location = none := by
  obtain ⟨directory, name, anchored⟩ := removable.anchored
  have here : now.Anchored path directory name :=
    anchored.persists (fun location node there => ⟨node, owed.kept there, id⟩) owed.home
  have strict := removable.strict
  rw [← owed.home] at below strict
  cases found : now.get? (path.locate now.home) with
  | none => exact (shrinks_removePath owed.plain here.locate_ne_nil).absent (absent_below found below)
  | some node =>
    obtain ⟨after, done, removes⟩ := removePath_found owed.plain here found
      (fun slash => by
        cases node with
        | link => exact absurd found owed.plain.not_link
        | directory => rfl
        | file mode content => exact absurd found (strict slash mode content))
      (fun same => FileSystem.removeDirectory_anchored owed.plain anchored owed.home
        (fun _ _ => owed.kept) vacant (same ▸ found))
    rw [done]
    simp [removes.get?, below]

theorem owed_removePath (owed : Owed before (path :: rest) now) : Owed before rest (removePath now path).2 := by
  obtain ⟨filled, vacant⟩ := owed.fresh path (by simp)
  have shrinks := shrinks_removePath owed.plain (owed.home ▸ filled)
  refine ⟨shrinks.plain, shrinks.home.trans owed.home, fun other member =>
    owed.fresh other (by simp [member]), fun location => ?_⟩
  rcases owed.get? location with same | ⟨other, member, removable, below⟩
  · left
    rcases shrinks.get? location with still | ⟨below, gone⟩
    · exact still.trans same
    · rw [gone, absent_below vacant (owed.home ▸ below)]
  · rcases List.mem_cons.mp member with rfl | member
    · left
      rw [get?_removePath owed removable vacant below, absent_below vacant below]
    · refine .inr ⟨other, member, ⟨removable.anchored, fun slash mode content file => ?_⟩, below⟩
      rcases shrinks.get? (other.locate before.home) with still | ⟨-, gone⟩
      · exact removable.strict slash mode content (still.symm.trans file)
      · cases gone.symm.trans file

theorem owed_removePaths (owed : Owed before (noted ++ rest) now) : Owed before rest (removePaths noted now).2 := by
  induction noted generalizing now with
  | nil => exact owed
  | cons path noted ih => exact ih (owed_removePath owed)

theorem Owed.reverse (owed : Owed before noted now) : Owed before (noted.reverse ++ []) now :=
  ⟨owed.plain, owed.home, by simpa using owed.fresh, by simpa using owed.get?⟩

theorem Owed.settled (owed : Owed before [] now) : now.get? location = before.get? location := by
  simpa using owed.get? location

theorem cleanUp_restores (earlier : Owed before noted middle) (later : Owed middle rest now) :
    let after := (cleanUp ⟨noted ++ rest⟩ now).2
    after.home = before.home ∧ ∀ location, after.get? location = before.get? location := by
  have undone := owed_removePaths later.reverse
  have owed : Owed before noted (removePaths rest.reverse now).2 := by
    refine ⟨undone.plain, undone.home.trans earlier.home, earlier.fresh, fun location => ?_⟩
    rcases earlier.get? location with same | ⟨path, member, removable, below⟩
    · exact .inl (undone.settled.trans same)
    · refine .inr ⟨path, member, ⟨removable.anchored, fun slash mode content file => ?_⟩, below⟩
      exact removable.strict slash mode content (undone.settled.symm.trans file)
  have restored := owed_removePaths owed.reverse
  unfold cleanUp
  rw [List.reverse_append, removePaths_append]
  exact ⟨restored.home, fun _ => restored.settled⟩

end Registry
end WheelInstaller
