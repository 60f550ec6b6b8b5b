import WheelInstaller.Proofs.Placement

/-! Which plans can be made, and what they are. Every entry has one place below the root, told by its names; a plan
fails only if two entries want the same place, or a file is where another entry goes through. -/

namespace WheelInstaller.Install.Plan

open RecordedPath (names place)

variable {archive root : Path} {entries : List Entry} {placed : List (Entry × Path)}

/-- A file is where another entry goes through. -/
def Obstructs (file other : Entry) : Prop :=
  file.isDirectory = false ∧ names file.path <+: names other.path ∧ names file.path ≠ names other.path

instance (file other : Entry) : Decidable (Obstructs file other) :=
  inferInstanceAs (Decidable (_ ∧ _ ∧ _))

theorem Obstructs.needed {file other : Entry} (obstructs : Obstructs file other) (filled : names file.path ≠ [])
    (member : other ∈ entries) : Needed entries (names file.path) := by
  obtain ⟨-, shorter, different⟩ := obstructs
  have less : (names file.path).length < (names other.path).length := by
    apply Nat.lt_of_le_of_ne shorter.length_le
    intro same
    exact different (shorter.eq_of_length same)
  exact ⟨other, member, .inl ⟨_, List.length_pos_iff.mpr filled, less, List.prefix_iff_eq_take.mp shorter⟩⟩

theorem obstructs_of_needed {file : Entry} (isFile : file.isDirectory = false) (member : file ∈ entries)
    (distinct : (entries.map fun entry => names entry.path).Nodup) (needed : Needed entries (names file.path)) :
    ∃ other ∈ entries, Obstructs file other := by
  obtain ⟨other, inside, ⟨count, -, few, same⟩ | ⟨isDirectory, same⟩⟩ := needed
  · refine ⟨other, inside, isFile, ?_, ?_⟩
    · rw [same]
      exact List.take_prefix count _
    · intro equal
      have lengths := congrArg List.length (same.symm.trans equal)
      rw [List.length_take] at lengths
      omega
  · have equal : file = other := List.inj_on_of_nodup_map distinct member inside same
    rw [equal, isDirectory] at isFile
    cases isFile

theorem exists_placeAll {taken : List (List Component × String)}
    (accepted : ∀ entry ∈ entries, ∃ target, place root entry.path = .ok target)
    (distinct : (entries.map fun entry => names entry.path).Nodup)
    (free : ∀ entry ∈ entries, ∀ known ∈ taken, known.1 ≠ root.components ++ (names entry.path).map .name) :
    ∃ placed, placeAll archive root taken entries = .ok placed := by
  induction entries generalizing taken with
  | nil => exact ⟨[], rfl⟩
  | cons entry rest ih =>
    obtain ⟨target, found⟩ := accepted entry (by simp)
    have below : target.destination.components = root.components ++ (names entry.path).map .name :=
      (RecordedPath.accepted_of_place found).destination
    obtain ⟨alone, others⟩ := List.nodup_cons.mp distinct
    have unknown : (taken.find? fun known => known.1 = target.destination.components) = none := by
      rw [List.find?_eq_none]
      intro known member
      simpa [below] using free entry (by simp) known member
    have further : ∀ other ∈ rest, ∀ known ∈ (target.destination.components, entry.path) :: taken,
        known.1 ≠ root.components ++ (names other.path).map .name := by
      intro other member known inside
      rcases List.mem_cons.mp inside with rfl | inside
      · intro same
        have repeated : names entry.path = names other.path := Path.Extends.unique below same
        exact alone (List.mem_map.mpr ⟨other, member, repeated.symm⟩)
      · exact free other (by simp [member]) known inside
    obtain ⟨placed, done⟩ := ih (fun other member => accepted other (by simp [member])) others further
    have accepted : (place root entry.path).mapError InstallError.path = .ok target := by
      rw [found]
      rfl
    refine ⟨(entry, target.destination) :: placed, ?_⟩
    simp [placeAll, accepted, unknown, done, bind, Except.bind, pure, Except.pure]

theorem build_iff : (∃ plan, build archive root entries = .ok plan) ↔
    (∀ entry ∈ entries, ∃ target, place root entry.path = .ok target) ∧
      (entries.map fun entry => names entry.path).Nodup ∧ ∀ file ∈ entries, ∀ other ∈ entries,
      ¬ Obstructs file other := by
  constructor
  · rintro ⟨plan, built⟩
    have faithful := faithful_of_build built
    obtain ⟨placed, done, -⟩ := build_eq_ok.mp built
    have good := (placed_of_placeAll done).1
    refine ⟨?_, faithful.distinct, ?_⟩
    · intro entry member
      obtain ⟨destination, inside⟩ := good.exists_mem member
      obtain ⟨target, found, -⟩ := good.targets _ inside
      exact ⟨target, found⟩
    · intro file member other inside obstructs
      exact faithful.apart file member obstructs.1 (obstructs.needed (faithful.named file member) inside)
  · rintro ⟨accepted, distinct, free⟩
    have free_of_nothing : ∀ entry ∈ entries, ∀ known ∈ ([] : List (List Component × String)),
        known.1 ≠ root.components ++ (names entry.path).map .name := fun _ _ => nofun
    obtain ⟨placed, done⟩ : ∃ placed, placeAll archive root [] entries = .ok placed :=
      exists_placeAll accepted distinct free_of_nothing
    have good := (placed_of_placeAll done).1
    refine ⟨_, build_eq_ok.mpr ⟨placed, done, checkFiles_eq_ok.mpr ⟨?_, rfl⟩⟩⟩
    intro file planned path listed same
    obtain ⟨inside, isFile⟩ := List.mem_filter.mp planned
    have member : file.1 ∈ entries := by
      rw [← good.entries]
      exact List.mem_map.mpr ⟨file, inside, rfl⟩
    -- The directory in question is needed under the names of the file.
    obtain ⟨directory, needed, below⟩ := (good.exists_directory _).mp ⟨path, listed, same⟩
    have names_eq : directory = names file.1.path := Path.Extends.unique below (good.accepted file inside).2.2
    obtain ⟨other, also, obstructs⟩ := obstructs_of_needed (by simpa using isFile) member distinct (names_eq ▸ needed)
    exact free file.1 member other also obstructs

variable {plan : Plan}

theorem Faithful.places (faithful : plan.Faithful root entries) :
    (plan.files.map fun file => (file.1, file.2.components)) =
      (entries.filter fun entry => !entry.isDirectory).map fun entry =>
        (entry, root.components ++ (names entry.path).map .name) := by
  rw [← faithful.files, List.map_map]
  apply List.map_congr_left
  intro file member
  exact congrArg (Prod.mk file.1) (faithful.destinations file member)

theorem Faithful.mem_directories (faithful : plan.Faithful root entries) {components : List Component} :
    components ∈ plan.directories.map Path.components ↔
      ∃ directory, Needed entries directory ∧ components = root.components ++ directory.map .name := by
  rw [List.mem_map]
  constructor
  · rintro ⟨path, member, rfl⟩
    exact faithful.directories path member
  · rintro ⟨directory, needed, rfl⟩
    exact faithful.complete directory needed

theorem Faithful.not_above (faithful : plan.Faithful root entries) {path : Path} (member : path ∈ plan.directories) :
    ¬ path.components <+: root.components := by
  intro above
  obtain ⟨directory, ⟨entry, inside, needed⟩, below⟩ := faithful.directories path member
  have filled := List.length_pos_iff.mpr (faithful.named entry inside)
  have lengths := above.length_le
  rw [show path.components = _ from below, List.length_append, List.length_map] at lengths
  rcases needed with ⟨count, positive, few, rfl⟩ | ⟨-, rfl⟩
  · rw [List.length_take] at lengths
    omega
  · omega

theorem ascending_of_build (built : build archive root entries = .ok plan) :
    plan.directories.Pairwise fun first second =>
    Path.orderComponents first.components second.components = .lt ∧ ¬ second.components <+: first.components := by
  obtain ⟨placed, -, checked⟩ := build_eq_ok.mp built
  obtain ⟨-, rfl⟩ := checkFiles_eq_ok.mp checked
  refine (Path.ascending_inOrder _).imp fun {first second} less => ⟨less, ?_⟩
  rintro ⟨rest, same⟩
  rw [← same] at less
  exact Path.orderComponents_append _ _ less

/-- A plan is made exactly if all entries are accepted, no two have the same names and no file is above another entry.
It then holds the files in the order of the entries, and exactly the directories that these need, in order: no
directory comes before one that it is in, and neither the root nor anything above it is among them. -/
theorem build_exactly (archive root : Path) (entries : List Entry) :
    ((∃ plan, build archive root entries = .ok plan) ↔
      (∀ entry ∈ entries, ∃ target, place root entry.path = .ok target) ∧
        (entries.map fun entry => names entry.path).Nodup ∧ ∀ file ∈ entries,
        ∀ other ∈ entries, ¬ Obstructs file other) ∧
      ∀ plan, build archive root entries = .ok plan →
        ((plan.files.map fun file => (file.1, file.2.components)) =
          (entries.filter fun entry => !entry.isDirectory).map fun entry =>
            (entry, root.components ++ (names entry.path).map .name)) ∧
        (∀ components, components ∈ plan.directories.map Path.components ↔
          ∃ directory, Needed entries directory ∧ components = root.components ++ directory.map .name) ∧
        (∀ path ∈ plan.directories, ¬ path.components <+: root.components) ∧
        plan.directories.Pairwise fun first second =>
          Path.orderComponents first.components second.components = .lt ∧ ¬ second.components <+: first.components := by
  refine ⟨build_iff, fun plan built => ?_⟩
  have faithful := faithful_of_build built
  refine ⟨faithful.places, ?_, ?_, ascending_of_build built⟩
  · intro components
    exact faithful.mem_directories
  · intro path member
    exact faithful.not_above member

/-- Two modules, one of them in a package further down, written with different slashes. -/
theorem build_exactly_nested :
    let entries : List Entry := [⟨0, "a/b/c.py", 1, false, none⟩, ⟨1, "./a\\d.py", 1, false, none⟩]
    (∀ entry ∈ entries, ∃ target, place ⟨"out"⟩ entry.path = .ok target) ∧
      ∃ plan, build ⟨"d.whl"⟩ ⟨"out"⟩ entries = .ok plan ∧
        (plan.files.map fun file => (file.1, file.2.components)) =
          entries.map (fun entry => (entry, (⟨"out"⟩ : Path).components ++ (names entry.path).map .name)) ∧
        ∀ path ∈ plan.directories, ¬ path.components <+: (⟨"out"⟩ : Path).components := by
  intro entries
  have accepted : ∀ entry ∈ entries, ∃ target, place ⟨"out"⟩ entry.path = .ok target := by
    simp only [entries, List.forall_mem_cons]
    refine ⟨⟨⟨"a/b/c.py", ⟨"a/b/c.py"⟩, ⟨"out/a/b/c.py"⟩⟩, ?_⟩,
      ⟨⟨"./a\\d.py", ⟨"a/d.py"⟩, ⟨"out/a/d.py"⟩⟩, ?_⟩, by simp⟩
    · decide +kernel
    · decide +kernel
  have free : ∀ file ∈ entries, ∀ other ∈ entries, ¬ Obstructs file other := by decide +kernel
  obtain ⟨plan, built⟩ := (build_exactly ⟨"d.whl"⟩ ⟨"out"⟩ entries).1.mpr ⟨accepted, by decide +kernel, free⟩
  obtain ⟨files, -, apart, -⟩ := (build_exactly ⟨"d.whl"⟩ ⟨"out"⟩ entries).2 plan built
  exact ⟨accepted, plan, built, files, apart⟩

end WheelInstaller.Install.Plan
