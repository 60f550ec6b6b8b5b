import WheelInstaller.FileSystem.Operation
import WheelInstaller.Proofs.FileSystem.Walk

/-! Where paths lead without links. A path stands for one location, which its components tell; whatever is
found at its end is found there. -/

namespace WheelInstaller

namespace Path

/-- One step from a location, whatever is there. -/
def stepFrom (here : Location) : Component → Location
  | .root => []
  | .current => here
  | .parent => here.dropLast
  | .name name => here ++ [name]

/-- The location that a path stands for, seen from a home directory. -/
def locate (home : Location) (path : Path) : Location :=
  path.components.foldl stepFrom home

variable {home here : Location} {path base : Path} {names : List String}

theorem foldl_stepFrom_names : (names.map .name).foldl stepFrom here = here ++ names := by
  induction names generalizing here with
  | nil => simp
  | cons name rest ih => simp [stepFrom, ih]

theorem Extends.locate (below : base.Extends names path) : path.locate home = base.locate home ++ names := by
  rw [Path.locate, show path.components = _ from below, List.foldl_append, foldl_stepFrom_names]
  rfl

theorem locate_div {name : String} (proper : ProperName name) :
    (path / name).locate home = path.locate home ++ [name] :=
  ((Extends.refl path).div proper).locate

theorem locate_of_fileName? {name : String} (named : path.fileName? = some name) :
    ∃ directory, path.locate home = directory ++ [name] := by
  obtain ⟨-, before, split⟩ := fileName?_eq_some named
  exact ⟨before.foldl stepFrom home, by rw [locate, split, List.foldl_append]; rfl⟩

/-! The steps between the slashes and the components lead to the same location. -/

theorem settle_segments (segments : List (List Char)) :
    FileSystem.settle here ((segments.filter (!·.isEmpty)).map String.ofList) =
      (segments.filterMap Component.ofSegment?).foldl stepFrom here := by
  induction segments generalizing here with
  | nil => rfl
  | cons segment rest ih =>
    by_cases empty : segment = []
    · simpa [empty, Component.ofSegment?] using ih
    · have same (text : String) : String.ofList segment = text ↔ segment = text.toList := by
        constructor
        · rintro rfl; simp
        · rintro rfl; simp
      rw [List.filter_cons_of_pos (by simpa using empty), List.map_cons, FileSystem.settle,
        List.filterMap_cons]
      simp only [same, Component.ofSegment?, empty, decide_false, Bool.false_or, decide_eq_true_eq]
      by_cases current : segment = ['.']
      · simpa [current] using ih
      · by_cases parent : segment = ['.', '.']
        · simpa [parent, stepFrom] using ih
        · simpa [current, parent, stepFrom] using ih

theorem foldl_pieces {first : List Char} {rest : List (List Char)}
    (pieces : Text.splitOn '/' path.text.toList = first :: rest)
    (filled : first ≠ [] ∨ rest ≠ []) (segments : List (List Char)) :
    ((first :: segments).filterMap Component.ofSegment?).foldl stepFrom (if path.isAbsolute then [] else home) =
      (lead first ++ segments.filterMap Component.ofSegment?).foldl stepFrom home := by
  have absolute := isAbsolute_iff pieces filled
  rw [List.filterMap_cons, List.foldl_append]
  unfold lead
  by_cases root : first = []
  · simp [root, absolute.mpr root, Component.ofSegment?, stepFrom]
  · simp only [root, iff_false, Bool.not_eq_true] at absolute
    by_cases current : first = ['.']
    · simp [current, absolute, Component.ofSegment?, stepFrom]
    · simp only [absolute, root, current, Bool.false_eq_true, if_false]
      cases Component.ofSegment? first <;> rfl

theorem settle_steps : FileSystem.settle (if path.isAbsolute then [] else home) path.steps = path.locate home := by
  rcases path.eq_empty_or_pieces with rfl | ⟨first, rest, pieces, some⟩
  · rfl
  · rw [steps, settle_segments, pieces, foldl_pieces pieces some, locate, components_of_pieces pieces some]

theorem strictSteps_eq (path : Path) : ∃ dots, (dots = [] ∨ dots = ["."]) ∧ path.strictSteps = path.steps ++ dots := by
  unfold strictSteps
  split
  · exact ⟨["."], .inr rfl, rfl⟩
  · exact ⟨[], .inl rfl, (List.append_nil _).symm⟩

theorem steps_prefix_strictSteps (path : Path) : path.steps <+: path.strictSteps := by
  obtain ⟨dots, -, strict⟩ := path.strictSteps_eq
  exact ⟨dots, strict.symm⟩

theorem settle_strictSteps :
    FileSystem.settle (if path.isAbsolute then [] else home) path.strictSteps = path.locate home := by
  obtain ⟨dots, only, strict⟩ := path.strictSteps_eq
  rw [← settle_steps, strict, FileSystem.settle_append]
  rcases only with rfl | rfl <;> rfl

theorem mem_steps {step : String} (member : step ∈ path.steps) : step ≠ "" ∧ '/' ∉ step.toList := by
  obtain ⟨segment, inside, rfl⟩ := List.mem_map.mp member
  obtain ⟨piece, filled⟩ := List.mem_filter.mp inside
  refine ⟨fun empty => ?_, by simpa using Text.not_mem_of_mem_splitOn piece⟩
  have : segment = [] := by simpa using congrArg String.toList empty
  simp [this] at filled

/-! A path with one more name behind it. -/

theorem text_div {name : String} (filled : path.text ≠ "") (proper : ProperName name) :
    ∃ letters, (path / name).text.toList = letters ++ '/' :: name.toList ∧
      (path.text.toList = letters ∨ path.text.toList = letters ++ ['/']) := by
  have relative : (⟨name⟩ : Path).isAbsolute = false := by
    by_contra absolute
    simp only [isAbsolute, Bool.not_eq_false, decide_eq_true_eq] at absolute
    exact proper.clean (List.mem_of_head? absolute)
  change ∃ letters, (path.join ⟨name⟩).text.toList = _ ∧ _
  simp only [join, relative, Bool.false_eq_true, if_false]
  cases last : path.text.toList.getLast? with
  | none => exact absurd (String.toList_inj.mp (by simpa using last)) filled
  | some c =>
    by_cases slash : c = '/'
    · obtain ⟨letters, split⟩ := List.getLast?_eq_some_iff.mp last
      subst slash
      exact ⟨letters, by simp [split], .inr split⟩
    · exact ⟨path.text.toList, by simp [slash], .inl rfl⟩

theorem steps_div {name : String} (filled : path.text ≠ "") (proper : ProperName name) :
    (path / name).steps = path.steps ++ [name] := by
  obtain ⟨letters, text, same⟩ := text_div filled proper
  have kept : (!name.toList.isEmpty) = true := by simpa using proper.nonempty
  unfold steps
  rw [text, Text.splitOn_append, Text.splitOn_of_not_mem proper.clean]
  rcases same with same | same
  · simp [same, kept]
  · simp [same, Text.splitOn_append, Text.splitOn, kept]

theorem hasTrailingSlash_div {name : String} (filled : path.text ≠ "") (proper : ProperName name) :
    (path / name).hasTrailingSlash = false := by
  obtain ⟨letters, text, -⟩ := text_div filled proper
  have clean := proper.clean
  rcases List.eq_nil_or_concat' name.toList with none | ⟨front, last, split⟩
  · exact absurd (by simpa using none) proper.nonempty
  · unfold hasTrailingSlash
    rw [text, split, ← List.cons_append, ← List.append_assoc, List.getLast?_concat]
    simp only [split, List.mem_append, List.mem_singleton, not_or] at clean
    simpa using Ne.symm clean.2

theorem strictSteps_div {name : String} (filled : path.text ≠ "") (proper : ProperName name) :
    (path / name).strictSteps = path.steps ++ [name] := by
  simp [strictSteps, hasTrailingSlash_div filled proper, steps_div filled proper]

theorem isAbsolute_div {name : String} (filled : path.text ≠ "") (proper : ProperName name) :
    (path / name).isAbsolute = path.isAbsolute := by
  obtain ⟨letters, text, same⟩ := text_div filled proper
  have some : path.text.toList ≠ [] := fun empty => filled (String.toList_inj.mp empty)
  unfold isAbsolute
  rw [text]
  rcases same with same | same <;> cases letters <;> simp_all

theorem check_eq_ok : path.check = .ok () ↔
    '\x00' ∉ path.text.toList ∧ path.text ≠ "" ∧ path.text.utf8ByteSize ≤ longest := by
  unfold check checkGiven checkText
  by_cases nul : '\x00' ∈ path.text.toList
  · simp [nul, bind, Except.bind]
  · by_cases empty : path.text = ""
    · simp [empty, bind, Except.bind]
    · by_cases long : longest < path.text.utf8ByteSize
      · simp [nul, empty, long, bind, Except.bind]
      · simp [nul, empty, long, bind, Except.bind]
        omega

theorem checkGiven_eq_ok : path.checkGiven = .ok () ↔ '\x00' ∉ path.text.toList ∧ path.text ≠ "" := by
  unfold checkGiven checkText
  by_cases nul : '\x00' ∈ path.text.toList
  · simp [nul, bind, Except.bind]
  · by_cases empty : path.text = ""
    · simp [empty, bind, Except.bind]
    · simp [nul, empty, bind, Except.bind]

theorem checkGiven_of_check (checked : path.check = .ok ()) : path.checkGiven = .ok () := by
  obtain ⟨clean, filled, -⟩ := check_eq_ok.mp checked
  exact checkGiven_eq_ok.mpr ⟨clean, filled⟩

/-- Nothing is wrong with a path that is told, but what it is made of. -/
theorem check_ne_notFound (filled : path.text ≠ "") : path.check ≠ .error .notFound := by
  unfold check checkGiven checkText
  by_cases nul : '\x00' ∈ path.text.toList
  · simp [nul, bind, Except.bind]
  · by_cases long : longest < path.text.utf8ByteSize <;> simp [nul, filled, long, bind, Except.bind]

theorem check_of_div {name : String} (filled : path.text ≠ "") (proper : ProperName name)
    (checked : (path / name).check = .ok ()) : path.check = .ok () := by
  obtain ⟨letters, text, same⟩ := text_div filled proper
  obtain ⟨clean, -, short⟩ := check_eq_ok.mp checked
  have longer : ∃ more, (path / name).text = path.text ++ more := by
    rcases same with same | same
    · exact ⟨String.ofList ('/' :: name.toList), String.toList_inj.mp (by simp [text, same])⟩
    · exact ⟨name, String.toList_inj.mp (by simp [text, same])⟩
  obtain ⟨more, longer⟩ := longer
  rw [longer, String.toList_append, List.mem_append, not_or] at clean
  rw [longer, String.utf8ByteSize_append] at short
  exact check_eq_ok.mpr ⟨clean.1, filled, by omega⟩

/-- Nothing in the path leads up. -/
def Straight (path : Path) : Prop :=
  .parent ∉ path.components

instance : Decidable path.Straight :=
  inferInstanceAs (Decidable (.parent ∉ path.components))

theorem Extends.straight (below : base.Extends names path) (straight : base.Straight) : path.Straight := by
  rw [Straight, show path.components = _ from below]
  simpa [Straight] using straight

theorem Straight.steps (straight : path.Straight) : ".." ∉ path.steps := by
  intro member
  obtain ⟨segment, inside, same⟩ := List.mem_map.mp member
  have parent : segment = ['.', '.'] := by simpa using congrArg String.toList same
  subst parent
  obtain ⟨piece, -⟩ := List.mem_filter.mp inside
  have filled : path.text ≠ "" := by
    intro empty
    simp [empty, Text.splitOn] at piece
  obtain ⟨first, rest, pieces, some⟩ := pieces_of_nonempty filled
  rw [pieces] at piece
  apply straight
  rw [components_of_pieces pieces some, List.mem_append]
  rcases List.mem_cons.mp piece with rfl | piece
  · exact .inl (by simp [lead, Component.ofSegment?])
  · exact .inr (List.mem_filterMap.mpr ⟨_, piece, by simp [Component.ofSegment?]⟩)

theorem Straight.strictSteps (straight : path.Straight) : ".." ∉ path.strictSteps := by
  obtain ⟨dots, rfl | rfl, strict⟩ := path.strictSteps_eq <;> simp [strict, straight.steps]

end Path

namespace FileSystem

variable {files : FileSystem} {path : Path} {location : Location} {node : Node}

theorem settle_origin : settle (files.origin path) path.strictSteps = path.locate files.home := by
  rw [← Path.settle_strictSteps]
  rfl

theorem resolve_eq_ok (plain : files.Plain) {follow : Bool} {place : Place} :
    files.resolve follow path = .ok place ↔
      path.check = .ok () ∧ files.Leads (files.origin path) path.strictSteps place := by
  unfold resolve
  cases path.check with
  | error error => simp [bind, Except.bind]
  | ok =>
    simp only [bind, Except.bind, true_and]
    cases found : files.walk follow linkLimit (files.origin path) path.strictSteps with
    | error error =>
      simp only [reduceCtorEq, false_iff]
      intro leads
      rw [(walk_eq_ok plain).mpr ⟨leads, rfl⟩] at found
      cases found
    | ok result =>
      obtain ⟨reached, left⟩ := result
      simp only [pure, Except.pure, Except.ok.injEq]
      refine ⟨fun same => same ▸ ((walk_eq_ok plain).mp found).1, fun leads => ?_⟩
      rw [(walk_eq_ok plain).mpr ⟨leads, rfl⟩] at found
      cases found
      rfl

theorem status_eq_ok (plain : files.Plain) {follow : Bool} :
    files.status follow path = .ok (location, node) ↔
      path.check = .ok () ∧ files.Leads (files.origin path) path.strictSteps (.occupied location node) := by
  rw [← resolve_eq_ok plain]
  unfold status
  cases files.resolve follow path with
  | error error => simp [bind, Except.bind]
  | ok place => cases place <;> simp [bind, Except.bind, pure, Except.pure]

theorem status_sound (plain : files.Plain) {follow : Bool} (found : files.status follow path = .ok (location, node)) :
    location = path.locate files.home ∧ files.get? location = some node := by
  obtain ⟨-, leads⟩ := (status_eq_ok plain).mp found
  rw [← settle_origin]
  exact leads.occupied

theorem status_of_exists? (found : files.exists? path = true) :
    ∃ location node, files.status true path = .ok (location, node) := by
  unfold exists? at found
  split at found
  next result same => exact ⟨result.1, result.2, same⟩
  next => cases found

theorem get?_of_exists? (plain : files.Plain) (found : files.exists? path = true) :
    files.get? (path.locate files.home) ≠ none := by
  obtain ⟨location, node, found⟩ := status_of_exists? found
  obtain ⟨rfl, occupied⟩ := status_sound plain found
  simp [occupied]

/-- A path that never leads up finds what is at its location, if it is short enough. -/
theorem exists?_of_straight (plain : files.Plain) (straight : path.Straight) :
    files.exists? path = true ↔
      path.check = .ok () ∧ (∀ step ∈ path.strictSteps, step.utf8ByteSize ≤ Path.longestName) ∧
        ∃ node, files.get? (path.locate files.home) = some node ∧
          (path.strictSteps.getLast? = some "." → node = .directory) := by
  have upward := straight.strictSteps
  constructor
  · intro found
    obtain ⟨location, node, found⟩ := status_of_exists? found
    obtain ⟨checked, leads⟩ := (status_eq_ok plain).mp found
    obtain ⟨rfl, there⟩ := status_sound plain found
    exact ⟨checked, leads.short, node, there, leads.directory_of_current⟩
  · rintro ⟨checked, short, node, there, last⟩
    rw [← settle_origin] at there
    have leads := leads_of_straight upward short there last
    have found : files.status true path = .ok (_, node) := (status_eq_ok plain).mpr ⟨checked, leads⟩
    simp [exists?, found]

theorem exists?_congr {other : FileSystem} (plain : files.Plain) (also : other.Plain) (straight : path.Straight)
    (home : other.home = files.home)
    (same : other.get? (path.locate files.home) = files.get? (path.locate files.home)) :
    other.exists? path = files.exists? path := by
  rw [Bool.eq_iff_iff, exists?_of_straight also straight, exists?_of_straight plain straight, home, same]

theorem status_of_isDirectory (found : files.isDirectory path = true) :
    ∃ location, files.status true path = .ok (location, .directory) := by
  unfold isDirectory at found
  split at found
  next location same => exact ⟨location, same⟩
  next => cases found

theorem exists?_of_isDirectory (found : files.isDirectory path = true) : files.exists? path = true := by
  obtain ⟨location, found⟩ := status_of_isDirectory found
  simp [exists?, found]

theorem get?_of_isDirectory (plain : files.Plain) (found : files.isDirectory path = true) :
    files.get? (path.locate files.home) = some .directory := by
  obtain ⟨location, found⟩ := status_of_isDirectory found
  obtain ⟨rfl, occupied⟩ := status_sound plain found
  exact occupied

theorem leads_strict {here : Location} (leads : files.Leads here path.steps (.occupied location .directory)) :
    files.Leads here path.strictSteps (.occupied location .directory) := by
  have found := leads.occupied.2
  obtain ⟨dots, rfl | rfl, strict⟩ := path.strictSteps_eq
  · rwa [strict, List.append_nil]
  · rw [strict]
    exact leads.append (.current found (.here found))

theorem isDirectory_of_leads (plain : files.Plain) (checked : path.check = .ok ())
    (leads : files.Leads (files.origin path) path.steps (.occupied location .directory)) :
    files.isDirectory path = true := by
  have there : files.status true path = .ok (location, .directory) :=
    (status_eq_ok plain).mpr ⟨checked, leads_strict leads⟩
  simp [isDirectory, there]

/-- Whatever has something below it is a directory. -/
theorem isDirectory_of_div (plain : files.Plain) {name : String} (filled : path.text ≠ "") (proper : ProperName name)
    (found : files.exists? (path / name) = true) : files.isDirectory path = true := by
  obtain ⟨location, node, found⟩ := status_of_exists? found
  obtain ⟨checked, leads⟩ := (status_eq_ok plain).mp found
  rw [Path.strictSteps_div filled proper] at leads
  have same : files.origin (path / name) = files.origin path := by
    simp [origin, Path.isAbsolute_div filled proper]
  have above := (leads.front (List.cons_ne_nil name [])).1
  rw [same] at above
  exact isDirectory_of_leads plain (Path.check_of_div filled proper checked) above

/-- A spot found by a path. -/
structure SpotOf (files : FileSystem) (path : Path) (spot : Spot) : Prop where
  check : path.check = .ok ()
  directory : files.get? spot.directory = some .directory
  leads : files.Leads (files.origin path) path.steps.dropLast (.occupied spot.directory .directory)
  name : ∀ name, spot.last = .name name →
    spot.directory ++ [name] = path.locate files.home ∧ ProperName name ∧ path.steps.getLast? = some name
  slash : spot.slash = path.hasTrailingSlash

theorem lastStep_eq_name {last : Option String} {name : String} (found : lastStep last = .name name) :
    last = some name ∧ name ≠ "." ∧ name ≠ ".." := by
  unfold lastStep at found
  split at found <;> cases found
  next notCurrent notParent => exact ⟨rfl, notCurrent, notParent⟩

/-- The spot of a path is in the directory that its steps before the last one lead to. -/
theorem walked_of_spot {spot : Spot} (found : files.spot path = .ok spot) :
    path.check = .ok () ∧
      files.walk true linkLimit (files.origin path) path.steps.dropLast =
      .ok (.occupied spot.directory .directory, spot.links) ∧
      spot.last = lastStep path.steps.getLast? ∧ spot.slash = path.hasTrailingSlash := by
  unfold FileSystem.spot spotFrom at found
  cases checked : path.check with
  | error error => simp [checked, bind, Except.bind] at found
  | ok =>
    simp only [checked, bind, Except.bind] at found
    split at found; · cases found
    next result walked =>
    obtain ⟨place, left⟩ := result
    cases place with
    | vacant => cases found
    | occupied directory node =>
      cases node with
      | directory =>
        cases found
        exact ⟨rfl, walked, rfl, rfl⟩
      | file | link => cases found

theorem spot_sound (plain : files.Plain) {spot : Spot} (found : files.spot path = .ok spot) :
    SpotOf files path spot := by
  obtain ⟨checked, walked, lastOf, slash⟩ := walked_of_spot found
  have leads := ((walk_eq_ok plain).mp walked).1
  obtain ⟨here, there⟩ := leads.occupied
  refine ⟨checked, there, leads, fun name last => ?_, slash⟩
  obtain ⟨last, notCurrent, notParent⟩ := lastStep_eq_name (lastOf.symm.trans last)
  obtain ⟨before, split⟩ := List.getLast?_eq_some_iff.mp last
  have member : name ∈ path.steps := by simp [split]
  obtain ⟨nonempty, clean⟩ := Path.mem_steps member
  refine ⟨?_, ⟨nonempty, notCurrent, notParent, clean⟩, last⟩
  rw [← Path.settle_steps, split, settle_append, settle_name notCurrent notParent, here, split,
    List.dropLast_concat]
  rfl

theorem nodeIn_eq_ok {directory : Location} {name : String} {found : Option Node} :
    files.nodeIn directory name = .ok found ↔
      name.utf8ByteSize ≤ Path.longestName ∧ found = files.get? (directory ++ [name]) := by
  unfold nodeIn
  split
  next long => simp; omega
  next short =>
    simp only [Except.ok.injEq]
    exact ⟨fun same => ⟨by omega, same.symm⟩, fun same => same.2.symm⟩

/-- A path ends in a name at its spot, and this is there under that name. -/
structure Finds (files : FileSystem) (path : Path) (spot : Spot) (name : String) (known : Option Node) : Prop where
  found : files.spot path = .ok spot
  last : spot.last = .name name
  inside : files.nodeIn spot.directory name = .ok known

namespace Finds

variable {spot : Spot} {name : String} {known : Option Node} (finds : files.Finds path spot name known)
include finds

theorem short : name.utf8ByteSize ≤ Path.longestName :=
  (nodeIn_eq_ok.mp finds.inside).1

theorem get? : files.get? (spot.directory ++ [name]) = known :=
  (nodeIn_eq_ok.mp finds.inside).2.symm

theorem locate (plain : files.Plain) : spot.directory ++ [name] = path.locate files.home :=
  ((spot_sound plain finds.found).name name finds.last).1

theorem room (plain : files.Plain) : files.Room (path.locate files.home) := by
  have spotOf := spot_sound plain finds.found
  rw [← finds.locate plain]
  exact .in_directory plain spotOf.directory (spotOf.name name finds.last).2.1

end Finds

end FileSystem
end WheelInstaller
