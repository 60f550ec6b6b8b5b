import WheelInstaller.Proofs.FileSystem.Anchor
import WheelInstaller.Proofs.FileSystem.Linked
import WheelInstaller.Proofs.Path.Spelling

/-!
A directory with no links below it, which links may lead to. Paths that go on from it by names end
where these names say, as far as the host takes them, and an empty file that is written there is all
that comes.
-/

namespace WheelInstaller

namespace Path

variable {root path : Path} {names : List String} {name : String}

theorem text_under_ne (filled : path.text ≠ "") (proper : ∀ name ∈ names, ProperName name) :
    (path.under names).text ≠ "" := by
  induction names generalizing path with
  | nil => exact filled
  | cons name rest ih =>
    exact ih (text_div_ne (proper name (by simp))) fun other member => proper other (by simp [member])

theorem steps_under (filled : path.text ≠ "") (proper : ∀ name ∈ names, ProperName name) :
    (path.under names).steps = path.steps ++ names := by
  induction names generalizing path with
  | nil => simp
  | cons name rest ih =>
    have named := proper name (by simp)
    rw [under_cons, ih (text_div_ne named) fun other member => proper other (by simp [member]),
      steps_div filled named, List.append_assoc, List.singleton_append]

theorem isAbsolute_under (filled : path.text ≠ "") (proper : ∀ name ∈ names, ProperName name) :
    (path.under names).isAbsolute = path.isAbsolute := by
  induction names generalizing path with
  | nil => simp
  | cons name rest ih =>
    have named := proper name (by simp)
    rw [under_cons, ih (text_div_ne named) fun other member => proper other (by simp [member]),
      isAbsolute_div filled named]

theorem hasTrailingSlash_under (filled : path.text ≠ "") (some : names ≠ [])
    (proper : ∀ name ∈ names, ProperName name) :
    (path.under names).hasTrailingSlash = false := by
  obtain ⟨front, last, rfl⟩ := (List.eq_nil_or_concat' names).resolve_left some
  rw [under_concat, hasTrailingSlash_div _ (proper last (by simp))]
  exact text_under_ne filled fun name member => proper name (by simp [member])

theorem strictSteps_under (filled : path.text ≠ "") (some : names ≠ []) (proper : ∀ name ∈ names, ProperName name) :
    (path.under names).strictSteps = path.steps ++ names := by
  rw [strictSteps, hasTrailingSlash_under filled some proper, steps_under filled proper]
  rfl

/-- The path of names below a root, as it is spelled for a root with a slash at its end. -/
def within (root : Path) (names : List String) : Path :=
  root.join (origin.under names)

theorem within_eq_under (some : names ≠ []) (proper : ∀ name ∈ names, ProperName name) :
    root.within names = root.under names :=
  join_origin_under some proper

theorem text_within_nil (root : Path) : (root.within []).text = root.text ∨
    (root.within []).text = root.text ++ "/" := by
  unfold within
  rw [under_nil, join_eq rfl]
  split
  · exact .inl (by simp [origin])
  · exact .inr (by simp [origin])

theorem steps_within (filled : root.text ≠ "") (proper : ∀ name ∈ names, ProperName name) :
    (root.within names).steps = root.steps ++ names := by
  by_cases some : names = []
  · subst some
    rw [List.append_nil]
    rcases text_within_nil root with same | slash
    · unfold steps
      rw [same]
    · unfold steps
      rw [slash, String.toList_append]
      change ((Text.splitOn '/' (root.text.toList ++ '/' :: [])).filter (!·.isEmpty)).map String.ofList = _
      rw [Text.splitOn_append, List.filter_append]
      simp [Text.splitOn]
  · rw [within_eq_under some proper, steps_under filled proper]

theorem strictSteps_within (filled : root.text ≠ "") (proper : ∀ name ∈ names, ProperName name) :
    ∃ dots, (dots = [] ∨ dots = ["."] ∧ names = []) ∧ (root.within names).strictSteps =
    root.steps ++ names ++ dots := by
  by_cases some : names = []
  · obtain ⟨dots, only, strict⟩ := (root.within names).strictSteps_eq
    rw [steps_within filled proper] at strict
    exact ⟨dots, only.imp_right fun dot => ⟨dot, some⟩, strict⟩
  · refine ⟨[], .inl rfl, ?_⟩
    rw [within_eq_under some proper, strictSteps_under filled some proper, List.append_nil]

theorem isAbsolute_within (filled : root.text ≠ "") (proper : ∀ name ∈ names, ProperName name) :
    (root.within names).isAbsolute = root.isAbsolute := by
  by_cases some : names = []
  · subst some
    have letters : root.text.toList ≠ [] := fun none => filled (String.toList_inj.mp none)
    rcases text_within_nil root with same | slash
    · simp [isAbsolute, same]
    · simp [isAbsolute, slash, List.head?_append_of_ne_nil _ letters]
  · rw [within_eq_under some proper, isAbsolute_under filled proper]

end Path

namespace FileSystem

variable {files : FileSystem} {root path : Path} {site location : Location} {names : List String} {node : Node}

/-! ### Opening a file -/

theorem run_openSpot (files : FileSystem) {spot : Spot} {name : String} (slash : spot.slash = false)
    (last : spot.last = .name name) :
    (openSpot newFileMode true spot).run files =
      if Path.longestName < name.utf8ByteSize then (.error .nameTooLong, files)
      else
        match files.get? (spot.directory ++ [name]) with
        | none => (.ok (.inl (spot.directory ++ [name])), files.put (spot.directory ++ [name])
          (.file newFileMode .empty))
        | some (.file mode _) =>
            (.ok (.inl (spot.directory ++ [name])), files.put (spot.directory ++ [name]) (.file mode .empty))
        | some .directory => (.error .isDirectory, files)
        | some (.link target) => (.ok (.inr target), files) := by
  unfold openSpot
  rw [slash, last]
  dsimp only
  rw [run_bind_eq, run_inspect]
  by_cases long : Path.longestName < name.utf8ByteSize
  · simp only [nodeIn, long, if_true]
  · simp only [nodeIn, long, if_false]
    cases files.get? (spot.directory ++ [name]) with
    | none => rfl
    | some node => cases node <;> rfl

theorem createFile_of_opened {spot : Spot} {after : FileSystem} (found : files.spot path = .ok spot)
    (opened : (openSpot newFileMode true spot).run files = (.ok (.inl location), after)) :
    (createFile path).run files = (.ok location, after) := by
  unfold createFile openToWrite
  rw [run_bind_eq, run_inspect, found]
  dsimp only [linkLimit]
  unfold createFileAt
  rw [run_bind_eq, opened]
  rfl

theorem createFile_of_refused {spot : Spot} {after : FileSystem} {error : OsError} (found : files.spot path = .ok spot)
    (refused : (openSpot newFileMode true spot).run files = (.error error, after)) :
    (createFile path).run files = (.error error, after) := by
  unfold createFile openToWrite
  rw [run_bind_eq, run_inspect, found]
  dsimp only [linkLimit]
  unfold createFileAt
  rw [run_bind_eq, refused]

/-- What opening does at the spot of a path that ends in a name, if there is no link. -/
theorem createFile_of_spot {spot : Spot} {name : String} (found : files.spot path = .ok spot)
    (slash : spot.slash = false)
    (last : spot.last = .name name) (noLink : ∀ target, files.get? (spot.directory ++ [name]) ≠ some (.link target)) :
    (createFile path).run files =
      if Path.longestName < name.utf8ByteSize then (.error .nameTooLong, files)
      else
        match files.get? (spot.directory ++ [name]) with
        | none => (.ok (spot.directory ++ [name]), files.put (spot.directory ++ [name]) (.file newFileMode .empty))
        | some (.file mode _) =>
            (.ok (spot.directory ++ [name]), files.put (spot.directory ++ [name]) (.file mode .empty))
        | some _ => (.error .isDirectory, files) := by
  have opened := run_openSpot files slash last
  by_cases long : Path.longestName < name.utf8ByteSize
  · rw [if_pos long] at opened ⊢
    exact createFile_of_refused found opened
  · rw [if_neg long] at opened ⊢
    cases there : files.get? (spot.directory ++ [name]) with
    | none =>
      rw [there] at opened
      exact createFile_of_opened found opened
    | some node =>
      rw [there] at opened
      cases node with
      | file => exact createFile_of_opened found opened
      | directory => exact createFile_of_refused found opened
      | link target => exact absurd there (noLink target)

theorem run_append (location : Location) (bytes : ByteArray) :
    (append location bytes).run files =
      match files.get? location with
      | some (.file mode content) => (.ok (), files.put location (.file mode (content ++ bytes)))
      | _ => (.ok (), files) := by
  unfold append
  rw [run_bind_eq, run_get]
  cases found : files.get? location with
  | none => simp only [found, run_pure]
  | some node => cases node <;> simp only [found, run_pure, run_set]

/-! ### Names below a directory -/

theorem isDirectory_of_readDirectory {names : List String} (listed : files.readDirectory path = .ok names) :
    files.isDirectory path = true := by
  unfold readDirectory at listed
  unfold isDirectory
  cases found : files.status true path with
  | error error =>
    rw [found] at listed
    cases listed
  | ok reached =>
    obtain ⟨location, node⟩ := reached
    rw [found] at listed
    cases node with
    | directory => rfl
    | file | link => cases listed

/-- There is no link in the directory that the path leads to. -/
def Unlinked (files : FileSystem) (root : Path) : Prop :=
  ∀ site, files.status true root = .ok (site, .directory) → ∀ names target,
  files.get? (site ++ names) ≠ some (.link target)

/-- The path leads to a directory that no link is in. -/
structure Sited (files : FileSystem) (root : Path) (site : Location) : Prop where
  told : root.text ≠ ""
  leads : ∃ left, walkBy files.get? true linkLimit (files.origin root) root.steps =
    .ok (.occupied site .directory, left)
  noLink : ∀ names target, files.get? (site ++ names) ≠ some (.link target)

theorem walk_steps_of_strictSteps {dots : List String} {start : Location} {links left : Nat} {steps : List String}
    (only : dots = [] ∨ dots = ["."])
    (walked : walkBy files.get? true links start (steps ++ dots) = .ok (.occupied site .directory, left)) :
    ∃ left, walkBy files.get? true links start steps = .ok (.occupied site .directory, left) := by
  rcases only with rfl | rfl
  · rw [List.append_nil] at walked
    exact ⟨left, walked⟩
  · obtain ⟨middle, remaining, front, last⟩ := walkBy_through walked
    rw [walkBy, walkBy_sound front] at last
    simp only [if_true, walkBy, walkBy_sound front] at last
    cases last
    exact ⟨_, front⟩

theorem walk_of_status (found : files.status true path = .ok (site, .directory)) :
    path.text ≠ "" ∧ ∃ left, walkBy files.get? true linkLimit (files.origin path) path.steps =
    .ok (.occupied site .directory, left) := by
  obtain ⟨checked, left, walked⟩ := status_eq_walkBy.mp found
  obtain ⟨dots, only, strict⟩ := path.strictSteps_eq
  rw [strict] at walked
  exact ⟨Path.filled_of_check checked, walk_steps_of_strictSteps only walked⟩

theorem status_of_walk {left : Nat} (checked : path.check = .ok ())
    (walked : walkBy files.get? true linkLimit (files.origin path) path.steps = .ok (.occupied site .directory, left)) :
    files.status true path = .ok (site, .directory) := by
  refine status_eq_walkBy.mpr ⟨checked, left, ?_⟩
  obtain ⟨dots, rfl | rfl, strict⟩ := path.strictSteps_eq
  · rwa [strict, List.append_nil]
  · rw [strict, walkBy_append walked]
    simp [walkBy, walkBy_sound walked]

/-- A walk along names ends where they say, unless one of them is too long. -/
theorem walkBy_names_iff {here : Location} {links : Nat} (proper : ∀ name ∈ names, ProperName name)
    (noLink : ∀ above target, above <+: names → files.get? (here ++ above) ≠ some (.link target)) :
    (∃ left, walkBy files.get? true links here names = .ok (.occupied location node, left)) ↔
      location = here ++ names ∧ files.get? location = some node ∧ ∀ name ∈ names,
      name.utf8ByteSize ≤ Path.longestName := by
  constructor
  · rintro ⟨left, walked⟩
    obtain ⟨rfl, short⟩ := walkBy_names proper noLink walked
    exact ⟨rfl, walkBy_sound walked, short⟩
  · rintro ⟨rfl, found, short⟩
    induction names generalizing here with
    | nil =>
      rw [List.append_nil] at found ⊢
      exact ⟨links, by rw [walkBy, found]⟩
    | cons name rest ih =>
      have named := proper name (by simp)
      have holder : files.get? here = some .directory := get?_above (by rw [found]; simp) (List.cons_ne_nil name rest)
      have within : ¬ Path.longestName < name.utf8ByteSize := by
        have := short name (by simp)
        omega
      rw [List.append_cons] at found ⊢
      obtain ⟨left, further⟩ := ih (fun other member => proper other (by simp [member]))
        (fun above target inside => by simpa using noLink (name :: above) target (by simpa using inside)) found
        (fun other member => short other (by simp [member]))
      refine ⟨left, ?_⟩
      rw [walkBy, holder]
      simp only [named.notCurrent, named.notParent, within, if_false]
      cases there : files.get? (here ++ [name]) with
      | none =>
        by_cases last : rest = []
        · rw [last, List.append_nil, there] at found
          cases found
        · rw [get?_below (by simp [there]) last] at found
          cases found
      | some inner =>
        cases inner with
        | link target => exact absurd there (noLink [name] target (by simp))
        | file | directory => exact further

theorem Unlinked.sited (unlinked : files.Unlinked root) (found : files.status true root = .ok (site, .directory)) :
    files.Sited root site := by
  obtain ⟨told, leads⟩ := walk_of_status found
  exact ⟨told, leads, unlinked site found⟩

theorem exists_site_of_readDirectory {children : List String}
    (listed : files.readDirectory (root.within []) = .ok children) :
    ∃ site, files.status true root = .ok (site, .directory) := by
  obtain ⟨site, found⟩ := status_of_isDirectory (isDirectory_of_readDirectory listed)
  obtain ⟨checked, left, walked⟩ := status_eq_walkBy.mp found
  obtain ⟨clean, filled, short⟩ := Path.check_eq_ok.mp checked
  have told : root.text ≠ "" := by
    intro empty
    apply filled
    simp [Path.within, Path.join_eq, Path.origin, Path.isAbsolute, empty]
  have origin : files.origin (root.within []) = files.origin root := by
    simp [FileSystem.origin, Path.isAbsolute_within told]
  have checked : root.check = .ok () := by
    rcases root.text_within_nil with same | slash
    · exact Path.check_eq_ok.mpr (same ▸ ⟨clean, filled, short⟩)
    · rw [slash] at clean short
      refine Path.check_eq_ok.mpr ⟨fun nul => clean (by simp [nul]), told, ?_⟩
      rw [String.utf8ByteSize_append] at short
      omega
  obtain ⟨dots, only, strict⟩ := Path.strictSteps_within told (List.forall_mem_nil _)
  rw [origin, strict, List.append_nil] at walked
  obtain ⟨left, leads⟩ := walk_steps_of_strictSteps (only.imp_right And.left) walked
  exact ⟨site, status_of_walk checked leads⟩

/-- The host takes the path of these names below the root. -/
structure Taken (root : Path) (names : List String) : Prop where
  checked : (root.within names).check = .ok ()
  short : ∀ name ∈ names, name.utf8ByteSize ≤ Path.longestName

namespace Sited

variable (sited : files.Sited root site) (proper : ∀ name ∈ names, ProperName name)
include sited

theorem get?_site : files.get? site = some .directory := by
  obtain ⟨left, leads⟩ := sited.leads
  exact walkBy_sound leads

include proper

theorem origin_within : files.origin (root.within names) = files.origin root := by
  simp [FileSystem.origin, Path.isAbsolute_within sited.told proper]

theorem status_within : files.status true (root.within names) = .ok (location, node) ↔
    Taken root names ∧ location = site ++ names ∧ files.get? location = some node := by
  obtain ⟨left, leads⟩ := sited.leads
  obtain ⟨dots, only, strict⟩ := Path.strictSteps_within sited.told proper
  have walk : walkBy files.get? true linkLimit (files.origin (root.within names)) (root.within names).strictSteps =
      walkBy files.get? true left site (names ++ dots) := by
    rw [sited.origin_within proper, strict, List.append_assoc, walkBy_append leads]
  have noLink (above : List String) (target : Path) (_ : above <+: names) := sited.noLink above target
  rw [status_eq_walkBy, walk]
  rcases only with rfl | ⟨rfl, rfl⟩
  · rw [List.append_nil, walkBy_names_iff proper noLink]
    constructor
    · rintro ⟨checked, same, found, short⟩
      exact ⟨⟨checked, short⟩, same, found⟩
    · rintro ⟨⟨checked, short⟩, same, found⟩
      exact ⟨checked, same, found, short⟩
  · have holder := sited.get?_site
    have ends : walkBy files.get? true left site ([] ++ ["."]) = .ok (.occupied site .directory, left) := by
      simp [walkBy, holder]
    rw [ends, List.append_nil]
    constructor
    · rintro ⟨checked, rest, same⟩
      cases same
      exact ⟨⟨checked, by simp⟩, rfl, holder⟩
    · rintro ⟨taken, rfl, found⟩
      rw [holder] at found
      cases found
      exact ⟨taken.checked, left, rfl⟩

theorem isDirectory_within :
    files.isDirectory (root.within names) = true ↔ Taken root names ∧ files.get? (site ++ names) = some .directory := by
  constructor
  · intro directory
    obtain ⟨location, found⟩ := status_of_isDirectory directory
    obtain ⟨taken, rfl, there⟩ := (sited.status_within proper).mp found
    exact ⟨taken, there⟩
  · rintro ⟨taken, there⟩
    have found := (sited.status_within proper).mpr ⟨taken, rfl, there⟩
    simp [isDirectory, found]

theorem readDirectory_within {children : List String} :
    files.readDirectory (root.within names) = .ok children ↔
      Taken root names ∧ files.get? (site ++ names) = some .directory ∧ children = files.children (site ++ names) := by
  constructor
  · intro listed
    unfold readDirectory at listed
    cases found : files.status true (root.within names) with
    | error error =>
      rw [found] at listed
      cases listed
    | ok reached =>
      obtain ⟨location, node⟩ := reached
      obtain ⟨taken, rfl, there⟩ := (sited.status_within proper).mp found
      rw [found] at listed
      cases node with
      | directory =>
        cases listed
        exact ⟨taken, there, rfl⟩
      | file | link => cases listed
  · rintro ⟨taken, there, rfl⟩
    have found := (sited.status_within proper).mpr ⟨taken, rfl, there⟩
    unfold readDirectory
    rw [found]
    rfl

omit proper in
theorem spot_within {front : List String} {last : String} {spot : Spot}
    (proper : ∀ name ∈ front ++ [last], ProperName name)
    (found : files.spot (root.within (front ++ [last])) = .ok spot) :
    spot.slash = false ∧ spot.last = .name last ∧ spot.directory = site ++ front ∧
      (root.within (front ++ [last])).check = .ok () ∧ ∀ name ∈ front, name.utf8ByteSize ≤ Path.longestName := by
  have some : front ++ [last] ≠ [] := by simp
  obtain ⟨left, leads⟩ := sited.leads
  obtain ⟨checked, walked, lastOf, slashOf⟩ := walk_of_spot found
  rw [sited.origin_within proper, Path.steps_within sited.told proper, ← List.append_assoc, List.dropLast_concat,
    walkBy_append leads] at walked
  have inside : ∀ name ∈ front, ProperName name := fun name member => proper name (by simp [member])
  have noLink (above : List String) (target : Path) (_ : above <+: front) := sited.noLink above target
  obtain ⟨directory, short⟩ := walkBy_names inside noLink walked
  have named := proper last (by simp)
  rw [Path.within_eq_under some proper, Path.hasTrailingSlash_under sited.told some proper] at slashOf
  rw [Path.steps_within sited.told proper, ← List.append_assoc, List.getLast?_concat] at lastOf
  refine ⟨slashOf, ?_, directory, checked, short⟩
  rw [lastOf]
  unfold lastStep
  split
  next none => cases none
  next current => exact absurd (Option.some.inj current) named.notCurrent
  next parent => exact absurd (Option.some.inj parent) named.notParent
  next same => rw [Option.some.inj same]

end Sited

end FileSystem
end WheelInstaller
