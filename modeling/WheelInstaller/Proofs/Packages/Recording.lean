import WheelInstaller.Proofs.FileSystem.Lookup
import WheelInstaller.Proofs.Packages.Depiction
import WheelInstaller.Proofs.Path.Spelling

/-! The snapshot that is recorded path by path. Every path has something to note of the directories on its way, and what
a snapshot lists is what was noted, in whatever order and however often. So it shows the tree that has exactly the
recorded paths and the directories that these need. -/

namespace WheelInstaller

variable {segments names : List String} {name segment : String} {directory place : Path} {isDirectory : Bool}

/-- Either kind of names is in order, and each name is there once. -/
structure Listing.Ascending (listing : Listing) : Prop where
  files : listing.files.Pairwise fun first second => compare first second = .lt
  directories : listing.directories.Pairwise fun first second => compare first second = .lt

theorem Listing.Ascending.addFile {listing : Listing} (ascending : listing.Ascending) (name : String) :
    (listing.addFile name).Ascending :=
  ⟨Ordered.ascending_insert ascending.files, ascending.directories⟩

theorem Listing.Ascending.addDirectory {listing : Listing} (ascending : listing.Ascending) (name : String) :
    (listing.addDirectory name).Ascending :=
  ⟨ascending.files, Ordered.ascending_insert ascending.directories⟩

theorem Listing.Ascending.eq {first second : Listing} (ascending : first.Ascending) (also : second.Ascending)
    (files : ∀ name, name ∈ first.files ↔ name ∈ second.files)
    (directories : ∀ name, name ∈ first.directories ↔ name ∈ second.directories) :
    first = second := by
  obtain ⟨_, _⟩ := first
  obtain ⟨_, _⟩ := second
  exact congrArg₂ Listing.mk (Ordered.eq_of_ascending ascending.files also.files files)
    (Ordered.eq_of_ascending ascending.directories also.directories directories)

namespace Snapshot

variable {snapshot : Snapshot} {steps : List Component}

/-- The listing of a directory, which is empty if there is none. -/
def listing (snapshot : Snapshot) (steps : List Component) : Listing :=
  (snapshot.directories[steps]?).getD {}

theorem listing_update {change : Listing → Listing} : (snapshot.update directory change).listing steps =
    if directory.components = steps then change (snapshot.listing directory.components)
    else snapshot.listing steps := by
  rw [listing, getElem?_update]
  split <;> rfl

theorem listed_update {change : Listing → Listing} : (snapshot.update directory change).directories[steps]? ≠ none ↔
    snapshot.directories[steps]? ≠ none ∨ directory.components = steps := by
  rw [getElem?_update]
  split
  next same => simp [same]
  next different => simp [different]

theorem getElem?_of_listed (listed : snapshot.directories[steps]? ≠ none) : snapshot.directories[steps]? =
    some (snapshot.listing steps) := by
  obtain ⟨listing, found⟩ := Option.ne_none_iff_exists'.mp listed
  simp [Snapshot.listing, found]

/-! ### Notes -/

/-- What can be noted of a directory: that it is there, or what is directly in it. -/
inductive Note where
  | here
  | file (name : String)
  | directory (name : String)

/-- A listing with one more note. -/
def Note.apply : Note → Listing → Listing
  | .here, listing => listing
  | .file name, listing => listing.addFile name
  | .directory name, listing => listing.addDirectory name

/-- A snapshot with one more note. -/
def note (snapshot : Snapshot) (noted : Path × Note) : Snapshot :=
  snapshot.update noted.1 noted.2.apply

/-- A snapshot lists what was noted, and nothing else. -/
structure Holds (snapshot : Snapshot) (notes : List (Path × Note)) : Prop where
  listed : ∀ steps, snapshot.directories[steps]? ≠ none ↔ ∃ noted ∈ notes, noted.1.components = steps
  files : ∀ steps name, name ∈ (snapshot.listing steps).files ↔ ∃ place, (place, .file name) ∈ notes ∧
    place.components = steps
  directories : ∀ steps name, name ∈ (snapshot.listing steps).directories ↔ ∃ place, (place, .directory name) ∈
    notes ∧ place.components = steps
  ascending : ∀ steps, (snapshot.listing steps).Ascending

theorem holds_nothing : Holds {} [] := by
  have empty (steps : List Component) : listing {} steps = {} := by simp [listing]
  constructor
  case listed => simp
  case files => simp [empty]
  case directories => simp [empty]
  case ascending =>
    intro steps
    rw [empty]
    exact ⟨.nil, .nil⟩

theorem Holds.note {notes : List (Path × Note)} (holds : snapshot.Holds notes) (noted : Path × Note) :
    (snapshot.note noted).Holds (notes ++ [noted]) := by
  obtain ⟨place, what⟩ := noted
  have apart {steps : List Component} (different : place.components ≠ steps) (kind : Note) (other : Path) :
      ¬ ((other = place ∧ kind = what) ∧ other.components = steps) := by
    rintro ⟨⟨rfl, -⟩, same⟩
    exact different same
  constructor
  case listed =>
    intro steps
    rw [Snapshot.note, listed_update, holds.listed]
    simp [or_and_right, exists_or]
  case files =>
    intro steps name
    rw [Snapshot.note, listing_update]
    split
    next same =>
      subst same
      cases what <;> simp [Note.apply, holds.files, or_and_right, exists_or, or_comm]
    next different => simp [holds.files, or_and_right, apart different]
  case directories =>
    intro steps name
    rw [Snapshot.note, listing_update]
    split
    next same =>
      subst same
      cases what <;> simp [Note.apply, holds.directories, or_and_right, exists_or, or_comm]
    next different => simp [holds.directories, or_and_right, apart different]
  case ascending =>
    intro steps
    rw [Snapshot.note, listing_update]
    split
    next =>
      cases what with
      | here => exact holds.ascending _
      | file name => exact (holds.ascending _).addFile name
      | directory name => exact (holds.ascending _).addDirectory name
    next => exact holds.ascending steps

theorem holds_foldl (notes : List (Path × Note)) : Holds (notes.foldl Snapshot.note {}) notes := by
  induction notes using List.reverseRecOn with
  | nil => exact holds_nothing
  | append_singleton notes noted ih =>
    rw [List.foldl_concat]
    exact ih.note noted

theorem Holds.getElem?_eq {other : Snapshot} {notes others : List (Path × Note)} (holds : snapshot.Holds notes)
    (also : other.Holds others) (same : ∀ noted, noted ∈ notes ↔ noted ∈ others) (steps : List Component) :
    snapshot.directories[steps]? = other.directories[steps]? := by
  have listed : snapshot.directories[steps]? ≠ none ↔ other.directories[steps]? ≠ none := by
    rw [holds.listed, also.listed]
    simp only [same]
  have listings : snapshot.listing steps = other.listing steps := by
    refine (holds.ascending steps).eq (also.ascending steps) (fun name => ?_) fun name => ?_
    · rw [holds.files, also.files]
      simp only [same]
    · rw [holds.directories, also.directories]
      simp only [same]
  by_cases known : snapshot.directories[steps]? = none
  · rw [known, not_not.mp (listed.not.mp (not_not.mpr known))]
  · rw [getElem?_of_listed known, getElem?_of_listed (listed.mp known), listings]

/-! ### What a path has to note -/

/-- What a path notes that goes on from a directory by segments. -/
def notes (isDirectory : Bool) : Path → List String → List (Path × Note)
  | _, [] => []
  | directory, segment :: rest =>
    if rest.isEmpty && !isDirectory then [(directory, .file segment)]
    else (directory, .directory segment) :: (directory / segment, .here) :: notes isDirectory (directory / segment) rest

theorem record_eq (isDirectory : Bool) (directory : Path) (segments : List String) (snapshot : Snapshot) :
    record isDirectory directory segments snapshot = (notes isDirectory directory segments).foldl note snapshot := by
  induction segments generalizing directory snapshot with
  | nil => rfl
  | cons segment rest ih =>
    unfold record notes
    split
    next => rfl
    next =>
      rw [List.foldl_cons, List.foldl_cons]
      exact ih (directory / segment) _

/-- The segments lead to a directory on the way of a path, or at its end if that is one. -/
def Leading (isDirectory : Bool) (segments front : List String) : Prop :=
  front <+: segments ∧ (front = segments → isDirectory = true)

variable {front : List String}

instance : Decidable (Leading isDirectory segments front) :=
  inferInstanceAs (Decidable (_ ∧ _))

theorem leading_nil : Leading isDirectory segments [] ↔ (segments = [] → isDirectory = true) := by
  simp [Leading, eq_comm]

theorem leading_cons {first : String} : Leading isDirectory (segment :: segments) (first :: front) ↔
    first = segment ∧ Leading isDirectory segments front := by
  simp only [Leading, List.cons_prefix_cons, List.cons.injEq]
  tauto

theorem Leading.of_append (leading : Leading isDirectory segments (front ++ names)) :
    Leading isDirectory segments front := by
  refine ⟨(List.prefix_append front names).trans leading.1, fun same => leading.2 ?_⟩
  subst same
  exact leading.1.eq_of_length_le (by simp)

/-- What a path notes of a directory on its way. -/
def Note.Due (isDirectory : Bool) (segments front : List String) : Note → Prop
  | .here => front ≠ [] ∧ Leading isDirectory segments front
  | .file name => isDirectory = false ∧ segments = front ++ [name]
  | .directory name => Leading isDirectory segments (front ++ [name])

theorem Note.Due.leading {what : Note} (due : what.Due isDirectory segments front) :
    Leading isDirectory segments front := by
  cases what with
  | here => exact due.2
  | file name =>
    rw [due.2]
    exact ⟨List.prefix_append front [name], fun same => by simp at same⟩
  | directory name => exact Leading.of_append due

/-- What is due on a way is due where it starts or further on, where its first segment leads. -/
theorem exists_due_cons {what : Note} :
    (∃ front, what.Due isDirectory (segment :: segments) front ∧ place = directory.under front) ↔
      what.Due isDirectory (segment :: segments) [] ∧ place = directory ∨
        ∃ front, what.Due isDirectory (segment :: segments) (segment :: front) ∧
        place = (directory / segment).under front := by
  constructor
  · rintro ⟨front, due, rfl⟩
    cases front with
    | nil => exact .inl ⟨due, rfl⟩
    | cons first front =>
      have same : first = segment := by
        cases what with
        | here => exact (List.cons_prefix_cons.mp due.2.1).1
        | file => exact (List.cons.inj due.2).1.symm
        | directory => exact (List.cons_prefix_cons.mp due.1).1
      exact .inr ⟨front, same ▸ due, same ▸ rfl⟩
  · rintro (⟨due, rfl⟩ | ⟨front, due, rfl⟩)
    · exact ⟨[], due, rfl⟩
    · exact ⟨segment :: front, due, rfl⟩

theorem mem_notes {what : Note} : (place, what) ∈ notes isDirectory directory segments ↔
    ∃ front, what.Due isDirectory segments front ∧ place = directory.under front := by
  induction segments generalizing directory with
  | nil =>
    simp only [notes, List.not_mem_nil, false_iff]
    rintro ⟨front, due, -⟩
    cases what with
    | here => exact due.1 (List.prefix_nil.mp due.2.1)
    | file => simp [Note.Due] at due
    | directory => simpa using List.prefix_nil.mp due.1
  | cons segment rest ih =>
    rw [exists_due_cons, notes]
    -- Only the last segment of a path can be a file.
    by_cases file : rest = [] ∧ isDirectory = false
    · obtain ⟨rfl, rfl⟩ := file
      have nowhere (front : List String) : ¬ Leading false [] front := fun ⟨shorter, ends⟩ => by
        simpa using ends (List.prefix_nil.mp shorter)
      cases what with
      | here => simp [Note.Due, leading_cons, nowhere]
      | file name => simp [Note.Due, and_comm, eq_comm (a := segment)]
      | directory name => simp [Note.Due, leading_cons, nowhere]
    · have inner : Leading isDirectory rest [] := leading_nil.mpr fun last => by simpa [last] using file
      have further : ¬ (rest.isEmpty && !isDirectory) = true := by simpa using file
      rw [if_neg further, List.mem_cons, List.mem_cons, ih]
      cases what with
      | here =>
        have either (front : List String) : Leading isDirectory rest front ∧ place = (directory / segment).under front ↔
            front = [] ∧ place = directory / segment ∨ (front ≠ [] ∧ Leading isDirectory rest front) ∧
            place = (directory / segment).under front := by
          by_cases first : front = []
          · simp [first, inner]
          · simp [first]
        simp [Note.Due, leading_cons, either, exists_or]
      | file name =>
        have alone : ¬ (isDirectory = false ∧ segment = name ∧ rest = []) := fun ⟨last, _, only⟩ => file ⟨only, last⟩
        simp [Note.Due, alone]
      | directory name => simp [Note.Due, leading_cons, inner, and_comm]

/-! ### All recorded paths -/

/-- Segments that lead to a directory on the way of a recorded path, or at its end. -/
def Through (paths : List String) (front : List String) : Prop :=
  ∃ path ∈ paths, Leading (⟨path⟩ : Path).hasTrailingSlash (⟨path⟩ : Path).steps front

/-- Segments that lead to a recorded file. -/
def Ending (paths : List String) (file : List String) : Prop :=
  ∃ path ∈ paths, (⟨path⟩ : Path).hasTrailingSlash = false ∧ (⟨path⟩ : Path).steps = file

/-- What recorded paths have to note. The root is there in any case. -/
def notesOf (paths : List String) : List (Path × Note) :=
  (Path.origin, .here) :: paths.flatMap fun path =>
    notes (⟨path⟩ : Path).hasTrailingSlash Path.origin (⟨path⟩ : Path).steps

variable {paths others : List String}

theorem mem_notesOf {what : Note} : (place, what) ∈ notesOf paths ↔ (place = Path.origin ∧ what = .here) ∨
    ∃ path ∈ paths, ∃ front, what.Due (⟨path⟩ : Path).hasTrailingSlash (⟨path⟩ : Path).steps front ∧
    place = Path.origin.under front := by
  simp only [notesOf, List.mem_cons, Prod.mk.injEq, List.mem_flatMap, mem_notes]

theorem holds_ofPaths (paths : List String) : (ofPaths paths).Holds (notesOf paths) := by
  have recorded (snapshot : Snapshot) : paths.foldl recordText snapshot =
      (paths.flatMap fun path => notes (⟨path⟩ : Path).hasTrailingSlash Path.origin
        (⟨path⟩ : Path).steps).foldl note snapshot := by
    induction paths generalizing snapshot with
    | nil => rfl
    | cons path rest ih =>
      rw [List.foldl_cons, List.flatMap_cons, List.foldl_append, ← ih, ← record_eq]
      rfl
  have whole : ofPaths paths = (notesOf paths).foldl note {} := recorded _
  rw [whole]
  exact holds_foldl (notesOf paths)

theorem listed_ofPaths : (ofPaths paths).directories[steps]? ≠ none ↔
    steps = [] ∨ ∃ front, front ≠ [] ∧ Through paths front ∧ (Path.origin.under front).components = steps := by
  rw [(holds_ofPaths paths).listed]
  constructor
  · rintro ⟨⟨place, what⟩, member, rfl⟩
    rcases mem_notesOf.mp member with ⟨rfl, rfl⟩ | ⟨path, inside, front, due, rfl⟩
    · exact .inl rfl
    · by_cases root : front = []
      · exact .inl (by rw [root]; rfl)
      · exact .inr ⟨front, root, ⟨path, inside, due.leading⟩, rfl⟩
  · rintro (rfl | ⟨front, below, ⟨path, inside, leading⟩, rfl⟩)
    · exact ⟨_, mem_notesOf.mpr (.inl ⟨rfl, rfl⟩), rfl⟩
    · exact ⟨_, mem_notesOf.mpr
        (.inr ⟨path, inside, front, show Note.Due _ _ front .here from ⟨below, leading⟩, rfl⟩), rfl⟩

theorem exists_noted {what : Note} (within : what ≠ .here) :
    (∃ place, (place, what) ∈ notesOf paths ∧ place.components = steps) ↔
      ∃ front, (∃ path ∈ paths, what.Due (⟨path⟩ : Path).hasTrailingSlash (⟨path⟩ : Path).steps front) ∧
        (Path.origin.under front).components = steps := by
  constructor
  · rintro ⟨place, member, rfl⟩
    obtain ⟨path, inside, front, due, rfl⟩ := (mem_notesOf.mp member).resolve_left fun root => within root.2
    exact ⟨front, ⟨path, inside, due⟩, rfl⟩
  · rintro ⟨front, ⟨path, inside, due⟩, rfl⟩
    exact ⟨_, mem_notesOf.mpr (.inr ⟨path, inside, front, due, rfl⟩), rfl⟩

theorem mem_files_ofPaths : name ∈ ((ofPaths paths).listing steps).files ↔
    ∃ front, Ending paths (front ++ [name]) ∧ (Path.origin.under front).components = steps :=
  ((holds_ofPaths paths).files steps name).trans (exists_noted nofun)

theorem mem_directories_ofPaths : name ∈ ((ofPaths paths).listing steps).directories ↔
    ∃ front, Through paths (front ++ [name]) ∧ (Path.origin.under front).components = steps :=
  ((holds_ofPaths paths).directories steps name).trans (exists_noted nofun)

theorem getElem?_ofPaths_eq (same : ∀ path, path ∈ paths ↔ path ∈ others) (steps : List Component) :
    (ofPaths paths).directories[steps]? = (ofPaths others).directories[steps]? := by
  refine (holds_ofPaths paths).getElem?_eq (holds_ofPaths others) (fun noted => ?_) steps
  obtain ⟨place, what⟩ := noted
  simp only [mem_notesOf, same]

end Snapshot

/-! ### Paths of names -/

open Install.Plan (Needed Stored)

namespace Path

/-- The text of names as it is recorded, with a slash behind a directory. -/
def spelled (isDirectory : Bool) (names : List String) : String :=
  (origin.under names).text ++ if isDirectory then "/" else ""

theorem hasTrailingSlash_spelled (some : names ≠ []) (proper : ∀ name ∈ names, ProperName name) :
    (⟨spelled isDirectory names⟩ : Path).hasTrailingSlash = isDirectory := by
  unfold spelled hasTrailingSlash
  cases isDirectory with
  | true => simp
  | false =>
    obtain ⟨front, last, rfl⟩ := (List.eq_nil_or_concat' names).resolve_left some
    obtain ⟨c, ends, open_⟩ := getLast?_div (origin.under front) (proper last (by simp))
    rw [under_concat]
    simp [ends, open_]

theorem steps_spelled (some : names ≠ []) (proper : ∀ name ∈ names, ProperName name) :
    (⟨spelled isDirectory names⟩ : Path).steps = names := by
  have pieces := pieces_under some proper
  have all : (names.map String.toList).filter (!·.isEmpty) = names.map String.toList := by
    rw [List.filter_eq_self]
    simpa using fun name member => (proper name member).nonempty
  unfold spelled steps origin
  cases isDirectory with
  | true =>
    rw [if_pos rfl, String.toList_append]
    change ((Text.splitOn '/' (_ ++ '/' :: [])).filter (!·.isEmpty)).map String.ofList = _
    rw [Text.splitOn_append, pieces, List.filter_append, all]
    simp [Text.splitOn, Function.comp_def]
  | false =>
    rw [if_neg Bool.false_ne_true, String.append_empty, pieces, all]
    simp [Function.comp_def]

end Path

/-- The path of an entry, with a slash behind a directory. -/
def Entry.treePath (entry : Entry) : String :=
  (Path.origin.under (RecordedPath.names entry.path)).text ++ if entry.isDirectory then "/" else ""

namespace Snapshot

variable {paths : List String} {entries : List Entry}

/-- Every recorded path is spelled by names. -/
def Spelled (paths : List String) : Prop :=
  ∀ path ∈ paths, ∃ isDirectory names, names ≠ [] ∧ (∀ name ∈ names, ProperName name) ∧
  path = Path.spelled isDirectory names

section Spelled

variable (spelled : Spelled paths) {front : List String}
include spelled

theorem Spelled.proper_of_through (through : Through paths front) : ∀ name ∈ front, ProperName name := by
  obtain ⟨path, member, shorter, -⟩ := through
  obtain ⟨isDirectory, names, some, proper, rfl⟩ := spelled path member
  rw [Path.steps_spelled some proper] at shorter
  exact fun name inside => proper name (shorter.subset inside)

theorem Spelled.proper_of_ending (ending : Ending paths front) : ∀ name ∈ front, ProperName name := by
  obtain ⟨path, member, -, rfl⟩ := ending
  obtain ⟨isDirectory, names, some, proper, rfl⟩ := spelled path member
  rwa [Path.steps_spelled some proper]

theorem Spelled.at?_ne_none : (ofPaths paths).at? names ≠ none ↔ names = [] ∨ Through paths names := by
  rw [at?, listed_ofPaths]
  constructor
  · rintro (root | ⟨front, -, through, same⟩)
    · exact .inl (by simpa using root)
    · have here := Path.origin_extends.mp (Path.extends_under (spelled.proper_of_through through))
      rw [here] at same
      exact .inr (List.map_injective_iff.mpr (fun _ _ => Component.name.inj) same ▸ through)
  · rintro (rfl | through)
    · exact .inl rfl
    · by_cases root : names = []
      · exact .inl (by simp [root])
      · exact .inr ⟨names, root, through,
          Path.origin_extends.mp (Path.extends_under (spelled.proper_of_through through))⟩

theorem Spelled.shows (names : List String) : ((ofPaths paths).listing (names.map .name)).Shows (Ending paths)
    (Through paths) names := by
  have same {front : List String} {name : String} (proper : ∀ other ∈ front ++ [name], ProperName other) :
      (Path.origin.under front).components = names.map .name ↔ front = names := by
    rw [Path.origin_extends.mp (Path.extends_under fun other member => proper other (by simp [member]))]
    exact (List.map_injective_iff.mpr fun _ _ => Component.name.inj).eq_iff
  constructor
  · intro name
    rw [mem_files_ofPaths]
    constructor
    · rintro ⟨front, ending, here⟩
      rwa [← (same (spelled.proper_of_ending ending)).mp here]
    · intro ending
      exact ⟨names, ending, (same (spelled.proper_of_ending ending)).mpr rfl⟩
  · intro name
    rw [mem_directories_ofPaths]
    constructor
    · rintro ⟨front, through, here⟩
      rwa [← (same (spelled.proper_of_through through)).mp here]
    · intro through
      exact ⟨names, through, (same (spelled.proper_of_through through)).mpr rfl⟩

theorem Spelled.depicts : (ofPaths paths).Proper ∧ (ofPaths paths).Depicts (Ending paths) (Through paths) := by
  have found {names : List String} (listed : (ofPaths paths).at? names ≠ none) :
      (ofPaths paths).at? names = some ((ofPaths paths).listing (names.map .name)) := getElem?_of_listed listed
  constructor
  · intro names listing listed name member
    cases listed.symm.trans (found (by simp [listed]))
    exact spelled.proper_of_through (((spelled.shows names).directories name).mp member) name (by simp)
  · intro names seen
    exact ⟨_, found (spelled.at?_ne_none.mpr seen.eq_or), spelled.shows names⟩

end Spelled

/-! ### The tree of some entries -/

theorem needed_iff_leading (some : ∀ entry ∈ entries, RecordedPath.names entry.path ≠ []) (front : List String) :
    Needed entries front ↔ ∃ entry ∈ entries, front ≠ [] ∧
    Leading entry.isDirectory (RecordedPath.names entry.path) front := by
  refine exists_congr fun entry => and_congr_right fun member => ?_
  constructor
  · rintro (⟨count, positive, few, rfl⟩ | ⟨isDirectory, rfl⟩)
    · refine ⟨?_, List.take_prefix .., fun same => ?_⟩
      · simpa [List.take_eq_nil_iff, some entry member] using Nat.ne_of_gt positive
      have length := congrArg List.length same
      rw [List.length_take] at length
      omega
    · exact ⟨some entry member, List.prefix_refl _, fun _ => isDirectory⟩
  · rintro ⟨filled, shorter, ends⟩
    by_cases same : front = RecordedPath.names entry.path
    · exact .inr ⟨ends same, same⟩
    · refine .inl ⟨front.length, List.length_pos_iff.mpr filled, ?_, List.prefix_iff_eq_take.mp shorter⟩
      exact Nat.lt_of_le_of_ne shorter.length_le fun length => same (shorter.eq_of_length length)

theorem depicts_treePaths (some : ∀ entry ∈ entries, RecordedPath.names entry.path ≠ [])
    (proper : ∀ entry ∈ entries, ∀ name ∈ RecordedPath.names entry.path, ProperName name) :
    (ofPaths (entries.map Entry.treePath)).Proper ∧
      (ofPaths (entries.map Entry.treePath)).Depicts (Stored entries) (Needed entries) := by
  have treePath (entry : Entry) : entry.treePath = Path.spelled entry.isDirectory (RecordedPath.names entry.path) := rfl
  have spelled : Spelled (entries.map Entry.treePath) := by
    intro path member
    obtain ⟨entry, inside, rfl⟩ := List.mem_map.mp member
    exact ⟨entry.isDirectory, _, some entry inside, proper entry inside, rfl⟩
  refine ⟨spelled.depicts.1, spelled.depicts.2.congr (fun names _ => ?_) fun names below => ?_⟩
  · simp only [Stored, Ending, List.mem_map, exists_exists_and_eq_and]
    refine exists_congr fun entry => and_congr_right fun member => ?_
    rw [treePath, Path.steps_spelled (some entry member) (proper entry member), Path.hasTrailingSlash_spelled
      (some entry member) (proper entry member)]
    tauto
  · simp only [needed_iff_leading some, Through, List.mem_map, exists_exists_and_eq_and]
    refine exists_congr fun entry => and_congr_right fun member => ?_
    rw [treePath, Path.steps_spelled (some entry member) (proper entry member), Path.hasTrailingSlash_spelled
      (some entry member) (proper entry member)]
    tauto

end Snapshot
end WheelInstaller
