import WheelInstaller.Proofs.FileSystem.Present
import WheelInstaller.Proofs.FileSystem.Sited

/-! Places for files below a directory that a path leads to, by whatever links. Below it there are only directories at
first; what comes to one place then has no part in what is found at another. -/

namespace WheelInstaller

namespace FileSystem

variable {base files other : FileSystem} {root path : Path} {site location : Location} {taken : Location → Prop}

/-- The path leads to a directory in which there are only directories. -/
structure Ground (base : FileSystem) (root : Path) (site : Location) : Prop where
  told : root.text ≠ ""
  leads : ∃ left, walkBy base.get? true linkLimit (base.origin root) root.steps = .ok (.occupied site .directory, left)
  below : ∀ names, names ≠ [] → base.get? (site ++ names) = none ∨ base.get? (site ++ names) = some .directory

/-- Files have come to some places where nothing was, and all else is as it was. -/
structure Fills (base : FileSystem) (taken : Location → Prop) (files : FileSystem) : Prop where
  home : files.home = base.home
  get? : ∀ location, files.get? location = base.get? location ∨
    taken location ∧ base.get? location = none ∧ ∃ mode content, files.get? location = some (.file mode content)

/-- The path stands for a place that can be taken, by names below the root, and no other such place is above it. -/
structure Slot (root : Path) (site : Location) (taken : Location → Prop) (path : Path)
    (location : Location) : Prop where
  exists_names : ∃ names, names ≠ [] ∧ (∀ name ∈ names, ProperName name) ∧ path = root.under names ∧
    location = site ++ names
  member : taken location
  clear : ∀ other, taken other → other <+: location → other = location

namespace Fills

theorem refl (base : FileSystem) : base.Fills taken base :=
  ⟨rfl, fun _ => .inl rfl⟩

variable (fills : base.Fills taken files)
include fills

theorem kept {node : Node} (found : base.get? location = some node) : files.get? location = some node := by
  rcases fills.get? location with same | ⟨-, absent, -⟩
  · exact same.trans found
  · cases absent.symm.trans found

theorem origin (path : Path) : files.origin path = base.origin path := by
  simp [FileSystem.origin, fills.home]

/-- What could be read before is read as before, and nothing else if nothing has come. -/
theorem readFile {archive : Path} (legible : (base.readFile archive).isOk ∨ ∀ location, ¬ taken location) :
    files.readFile archive = base.readFile archive := by
  rcases legible with legible | vacant
  · unfold FileSystem.readFile at legible ⊢
    cases found : base.status true archive with
    | error error =>
      rw [found] at legible
      cases legible
    | ok reached =>
      obtain ⟨location, node⟩ := reached
      obtain ⟨-, left, walked⟩ := status_eq_walkBy.mp found
      rw [status_congr fills.home, found]
      rw [walked, walkBy_kept (fun _ _ => fills.kept) walked]
  · have same : files.get? = base.get? := funext fun location =>
      (fills.get? location).resolve_right fun came => vacant location came.1
    unfold FileSystem.readFile
    rw [status_congr fills.home (by rw [same])]

end Fills

theorem run_setMode (path : Path) (mode : Nat) :
    (setMode path mode).run files =
      match files.status true path with
      | .error error => (.error error, files)
      | .ok (location, .file _ content) => (.ok (), files.put location (.file (permissions mode) content))
      | .ok _ => (.ok (), files) := by
  unfold setMode
  rw [run_bind_eq, run_inspect]
  cases files.status true path with
  | error error => rfl
  | ok reached =>
    obtain ⟨location, node⟩ := reached
    cases node <;> rfl

/-! ### What is found at a place -/

theorem Ground.not_link (ground : base.Ground root site) (fills : base.Fills taken files) (names : List String)
    (target : Path) : files.get? (site ++ names) ≠ some (.link target) := by
  rcases fills.get? (site ++ names) with same | ⟨-, -, mode, content, file⟩
  · rw [same]
    by_cases here : names = []
    · obtain ⟨left, leads⟩ := ground.leads
      simp [here, walkBy_sound leads]
    · rcases ground.below names here with absent | directory
      · simp [absent]
      · simp [directory]
  · simp [file]

theorem Ground.walk (ground : base.Ground root site) (taken : Location → Prop) : ∃ left, ∀ files,
    base.Fills taken files → ∀ names,
    walkBy files.get? true linkLimit (base.origin root) (root.steps ++ names) =
    walkBy files.get? true left site names := by
  obtain ⟨left, leads⟩ := ground.leads
  exact ⟨left, fun files fills names => walkBy_append (walkBy_kept (fun _ _ => fills.kept) leads)⟩

theorem Ground.sited (ground : base.Ground root site) (fills : base.Fills taken files) : files.Sited root site := by
  obtain ⟨left, leads⟩ := ground.leads
  refine ⟨ground.told, ⟨left, ?_⟩, ground.not_link fills⟩
  rw [fills.origin]
  exact walkBy_kept (fun _ _ => fills.kept) leads

namespace Slot

variable (slot : Slot root site taken path location) (ground : base.Ground root site)
include slot

theorem get?_front (also : base.Fills taken other) (fills : base.Fills taken files) {names above : List String}
    (here : location = site ++ names) (inside : above <+: names) (shorter : above ≠ names) :
    files.get? (site ++ above) = other.get? (site ++ above) := by
  have same {files : FileSystem} (fills : base.Fills taken files) :
    files.get? (site ++ above) = base.get? (site ++ above) := by
    refine (fills.get? _).resolve_right fun came => ?_
    have reached := slot.clear _ came.1 (here ▸ (List.prefix_append_right_inj site).mpr inside)
    exact shorter (List.append_cancel_left (reached.trans here))
  rw [same fills, same also]

include ground

theorem origin : base.origin path = base.origin root := by
  obtain ⟨names, -, proper, rfl, -⟩ := slot.exists_names
  simp [FileSystem.origin, Path.isAbsolute_under ground.told proper]

theorem spot_eq (fills : base.Fills taken files) : files.spot path = base.spot path := by
  obtain ⟨names, some, proper, rfl, here⟩ := slot.exists_names
  obtain ⟨left, walk⟩ := ground.walk taken
  have front : names.dropLast <+: names := List.dropLast_prefix names
  have shorter {above : List String} (inside : above <+: names.dropLast) : above ≠ names := by
    rintro rfl
    have := inside.length_le
    have := List.length_pos_iff.mpr some
    simp at *
    omega
  refine spot_congr fills.home ?_
  rw [slot.origin ground, Path.steps_under ground.told proper, List.dropLast_append_of_ne_nil some, walk _ fills,
    walk _ (.refl base)]
  refine walkBy_below (fun name member => proper name (front.subset member))
    (fun above inside => ?_) fun above target _ => ?_
  · exact slot.get?_front (.refl base) fills here (inside.trans front) (shorter inside)
  · exact ground.not_link fills above target

theorem status_eq (fills : base.Fills taken files) (also : base.Fills taken other)
    (same : other.get? location = files.get? location) :
    other.status true path = files.status true path := by
  obtain ⟨names, some, proper, rfl, here⟩ := slot.exists_names
  obtain ⟨left, walk⟩ := ground.walk taken
  refine status_congr (also.home.trans fills.home.symm) ?_
  rw [fills.origin, slot.origin ground, Path.strictSteps_under ground.told some proper, walk _ fills, walk _ also]
  refine walkBy_below proper (fun above inside => ?_) fun above target _ => ground.not_link also above target
  by_cases whole : above = names
  · rw [whole, ← here, same]
  · exact slot.get?_front fills also here inside whole

theorem status_at (fills : base.Fills taken files) {reached : Location} {node : Node}
    (found : files.status true path = .ok (reached, node)) : reached = location ∧ files.get? location = some node := by
  obtain ⟨names, some, proper, rfl, rfl⟩ := slot.exists_names
  rw [← Path.within_eq_under some proper] at found
  obtain ⟨-, rfl, there⟩ := ((ground.sited fills).status_within proper).mp found
  exact ⟨rfl, there⟩

theorem spot_at (fills : base.Fills taken files) {spot : Spot} (found : files.spot path = .ok spot) :
    spot.slash = false ∧ ∃ name, spot.last = .name name ∧ spot.directory ++ [name] = location := by
  obtain ⟨names, some, proper, rfl, rfl⟩ := slot.exists_names
  obtain ⟨front, last, rfl⟩ := (List.eq_nil_or_concat' names).resolve_left some
  rw [← Path.within_eq_under some proper] at found
  obtain ⟨slash, ends, directory, -⟩ := (ground.sited fills).spot_within proper found
  exact ⟨slash, last, ends, by rw [directory, List.append_assoc]⟩

theorem fills_put (fills : base.Fills taken files) (mode : Nat) (content : ByteArray)
    {directory : Location} {name : String}
    (holder : files.get? directory = some .directory) (ends : directory ++ [name] = location)
    (free : files.get? location ≠ some .directory) :
    base.Fills taken (files.put location (.file mode content)) ∧
    ∀ other, (files.put location (.file mode content)).get? other =
      if other = location then some (.file mode content) else files.get? other := by
  have shown : ∀ other, (files.put location (.file mode content)).get? other =
      if other = location then some (.file mode content) else files.get? other := by
    subst ends
    exact get?_put_in holder free _
  have vacant : base.get? location = none := by
    obtain ⟨names, some, -, -, here⟩ := slot.exists_names
    subst here
    refine (ground.below names some).resolve_right fun directory => free (fills.kept directory)
  refine ⟨⟨fills.home, fun other => ?_⟩, shown⟩
  rw [shown]
  split
  next here => exact .inr ⟨here ▸ slot.member, here ▸ vacant, mode, content, rfl⟩
  next => exact fills.get? other

theorem createFile_cases :
    (∃ error, ∀ files, base.Fills taken files → (createFile path).run files = (.error error, files)) ∨
      ∃ directory name, base.get? directory = some .directory ∧ directory ++ [name] = location ∧
        ∀ files, base.Fills taken files → (createFile path).run files =
          match files.get? location with
          | none => (.ok location, files.put location (.file newFileMode .empty))
          | some (.file mode _) => (.ok location, files.put location (.file mode .empty))
          | some _ => (.error .isDirectory, files) := by
  cases found : base.spot path with
  | error error =>
    refine .inl ⟨error, fun files fills => ?_⟩
    unfold createFile openToWrite
    rw [run_bind_eq, run_inspect, slot.spot_eq ground fills, found]
  | ok spot =>
    obtain ⟨slash, name, last, ends⟩ := slot.spot_at ground (.refl base) found
    have noLink {files : FileSystem} (fills : base.Fills taken files) (target : Path) :
      files.get? location ≠ some (.link target) := by
      obtain ⟨names, -, -, -, here⟩ := slot.exists_names
      exact here ▸ ground.not_link fills names target
    have run {files : FileSystem} (fills : base.Fills taken files) :=
      createFile_of_spot ((slot.spot_eq ground fills).trans found) slash last fun target => ends ▸ noLink fills target
    by_cases long : Path.longestName < name.utf8ByteSize
    · refine .inl ⟨.nameTooLong, fun files fills => ?_⟩
      rw [run fills, if_pos long]
    · refine .inr ⟨spot.directory, name, get?_of_spot found, ends, fun files fills => ?_⟩
      rw [run fills, if_neg long, ends]
      rfl

theorem createFile_at (fills : base.Fills taken files) {reached : Location}
    (opened : ((createFile path).run files).1 = .ok reached) :
    reached = location := by
  rcases slot.createFile_cases ground with ⟨error, run⟩ | ⟨directory, name, -, -, run⟩
  · rw [run _ fills] at opened
    cases opened
  · rw [run _ fills] at opened
    split at opened <;> cases opened <;> rfl

end Slot

/-! ### Actions at a place -/

/-- What an action tells and does depends on one place alone, and only there it leaves anything. -/
structure ActsAt (base : FileSystem) (taken : Location → Prop) (location : Location) {α : Type}
    (action : Action α) : Prop where
  keeps : ∀ {files}, base.Fills taken files → base.Fills taken (action.run files).2 ∧
    ∀ other, other ≠ location → (action.run files).2.get? other = files.get? other
  same : ∀ {files other}, base.Fills taken files → base.Fills taken other → other.get? location = files.get? location →
    (action.run other).1 = (action.run files).1 ∧ (action.run other).2.get? location =
    (action.run files).2.get? location

namespace Slot

variable (slot : Slot root site taken path location) (ground : base.Ground root site)
include slot ground

theorem actsAt_createFile : base.ActsAt taken location (createFile path) := by
  rcases slot.createFile_cases ground with ⟨error, run⟩ | ⟨directory, name, there, ends, run⟩
  · constructor
    · intro files fills
      rw [run _ fills]
      exact ⟨fills, fun _ _ => rfl⟩
    · intro files other fills also same
      rw [run _ fills, run _ also]
      exact ⟨rfl, same⟩
  · have put {files : FileSystem} (fills : base.Fills taken files) (free : files.get? location ≠ some .directory)
      (mode : Nat) :=
      slot.fills_put ground fills mode .empty (fills.kept there) ends free
    constructor
    · intro files fills
      rw [run _ fills]
      split
      next absent =>
        obtain ⟨still, shown⟩ := put fills (by simp [absent]) newFileMode
        exact ⟨still, fun other apart => by rw [shown, if_neg apart]⟩
      next mode content file =>
        obtain ⟨still, shown⟩ := put fills (by simp [file]) mode
        exact ⟨still, fun other apart => by rw [shown, if_neg apart]⟩
      next => exact ⟨fills, fun _ _ => rfl⟩
    · intro files other fills also same
      rw [run _ fills, run _ also, same]
      split
      next absent =>
        rw [(put fills (by simp [absent]) newFileMode).2, (put also (by simp [same, absent]) newFileMode).2]
        simp
      next mode content file =>
        rw [(put fills (by simp [file]) mode).2, (put also (by simp [same, file]) mode).2]
        simp
      next => exact ⟨rfl, same⟩

theorem fills_put_file {files : FileSystem} (fills : base.Fills taken files) (mode : Nat)
    (content : ByteArray) {known : Nat} {old : ByteArray} (found : files.get? location = some (.file known old)) :
    base.Fills taken (files.put location (.file mode content)) ∧
    ∀ other, (files.put location (.file mode content)).get? other =
      if other = location then some (.file mode content) else files.get? other := by
  obtain ⟨names, some, -, -, here⟩ := slot.exists_names
  obtain ⟨front, last, rfl⟩ := (List.eq_nil_or_concat' names).resolve_left some
  rw [← List.append_assoc] at here
  refine slot.fills_put ground fills mode content (get?_above ?_ (List.cons_ne_nil last [])) here.symm (by simp [found])
  simp [← here, found]

theorem actsAt_append (bytes : ByteArray) : base.ActsAt taken location (append location bytes) := by
  constructor
  · intro files fills
    rw [run_append]
    split
    next mode content found =>
      obtain ⟨still, shown⟩ := slot.fills_put_file ground fills mode (content ++ bytes) found
      exact ⟨still, fun other apart => by rw [shown, if_neg apart]⟩
    next => exact ⟨fills, fun _ _ => rfl⟩
  · intro files other fills also same
    rw [run_append, run_append, same]
    split
    next mode content found =>
      rw [(slot.fills_put_file ground fills _ _ found).2, (slot.fills_put_file ground also _ _ (same.trans found)).2]
      simp
    next => exact ⟨rfl, same⟩

theorem actsAt_setMode (mode : Nat) : base.ActsAt taken location (setMode path mode) := by
  constructor
  · intro files fills
    rw [run_setMode]
    split
    next => exact ⟨fills, fun _ _ => rfl⟩
    next reached known content found =>
      obtain ⟨rfl, there⟩ := slot.status_at ground fills found
      obtain ⟨still, shown⟩ := slot.fills_put_file ground fills (permissions mode) content there
      exact ⟨still, fun other apart => by rw [shown, if_neg apart]⟩
    next => exact ⟨fills, fun _ _ => rfl⟩
  · intro files other fills also same
    rw [run_setMode, run_setMode, slot.status_eq ground fills also same]
    split
    next => exact ⟨rfl, same⟩
    next reached known content found =>
      obtain ⟨rfl, there⟩ := slot.status_at ground fills found
      rw [(slot.fills_put_file ground fills _ _ there).2, (slot.fills_put_file ground also _ _ (same.trans there)).2]
      simp
    next => exact ⟨rfl, same⟩

end Slot

end FileSystem
end WheelInstaller

/-! ### Directories to be filled

One that is absent or empty is an empty one once it is made, and has only directories in it
while no others are made. -/

namespace WheelInstaller.FileSystem

variable {files after : FileSystem} {path : Path} {site : Location}

/-- What the path leads to is absent or empty: making the directory leaves an empty one. -/
def Vacant (files : FileSystem) (path : Path) : Prop :=
  ∀ after, (makeDirectories path).run files = (.ok (), after) → after.readDirectory path = .ok []

theorem children_eq_nil (vacant : ∀ name, files.get? (site ++ [name]) = none) : files.children site = [] :=
  List.eq_nil_iff_forall_not_mem.mpr fun name member => mem_children.mp member (vacant name)

theorem readDirectory_of_makeDirectory (done : (makeDirectory path).run files = (.ok (), after)) :
    after.readDirectory path = .ok [] := by
  have gains := gains_makeDirectory done
  obtain ⟨spot, name, finds, same⟩ := makeDirectory_eq_ok done
  obtain ⟨checked, walked, lastOf, -⟩ := walk_of_spot finds.found
  have free : files.get? (spot.directory ++ [name]) ≠ some .directory := by simp [finds.get?]
  have shown (other : Location) : after.get? other = if other = spot.directory ++ [name]
    then some .directory else files.get? other :=
    same ▸ get?_put_in (get?_of_spot finds.found) free .directory other
  have made : after.get? (spot.directory ++ [name]) = some .directory := by simp [shown]
  have front : walkBy after.get? true linkLimit (after.origin path) path.steps.dropLast = _ :=
    (congrArg (walkBy _ _ _ · _) (by simp [origin, gains.home])).trans (walkBy_kept gains.kept walked)
  have still : after.Finds path _ name (some .directory) :=
    ⟨spot_of_walk checked front, lastOf.symm.trans finds.last, nodeIn_eq_ok.mpr ⟨finds.short, made.symm⟩⟩
  have reached : after.status true path = _ := still.status (.inl rfl)
  have empty : after.children (spot.directory ++ [name]) = [] := by
    refine children_eq_nil fun below => ?_
    rw [shown, if_neg (by simp)]
    exact get?_below (by simp [finds.get?]) (by simp)
  unfold readDirectory
  rw [reached]
  exact congrArg Except.ok empty

theorem vacant_of_absent (absent : files.exists? path = false) (told : path.components ≠ []) (near : files.Near path) :
    files.Vacant path := by
  intro after done
  rw [makeDirectories_of_near near told] at done
  split at done
  next made =>
    cases done
    exact readDirectory_of_makeDirectory made
  next =>
    split at done
    next there =>
      simp only [Bool.and_eq_true] at there
      cases absent.symm.trans (exists?_of_isDirectory there.2)
    next => cases done

/-- Among directories and files alone, a path is vacant where nothing is found, however much is missing above it. -/
theorem vacant_of_straight (plain : files.Plain) (absent : files.exists? path = false) (told : path.components ≠ [])
    (straight : path.Straight) : files.Vacant path := by
  intro after done
  obtain ⟨free, grows⟩ := makeDirectories_straight plain absent told straight done
  obtain ⟨site, found⟩ := status_of_isDirectory ((makeDirectories_run plain done).2 rfl told)
  obtain ⟨rfl, -⟩ := status_sound grows.plain found
  have empty : after.children (path.locate after.home) = [] := by
    rw [grows.home]
    refine children_eq_nil fun name => ?_
    rcases grows.get? (path.locate files.home ++ [name]) with same | ⟨above, -⟩
    · exact same.trans (get?_below (by simp [free]) (by simp))
    · exact absurd above.length_le (by simp)
  unfold readDirectory
  rw [found]
  exact congrArg Except.ok empty

/-! ### The ground for files -/

theorem ground_of_empty (listed : files.readDirectory path = .ok []) : ∃ site, files.Ground path site := by
  obtain ⟨site, found⟩ := status_of_isDirectory (isDirectory_of_readDirectory listed)
  have empty : files.children site = [] := by
    unfold readDirectory at listed
    rw [found] at listed
    exact Except.ok.inj listed
  obtain ⟨told, leads⟩ := walk_of_status found
  refine ⟨site, told, leads, fun names some => .inl ?_⟩
  obtain ⟨first, rest, rfl⟩ := List.exists_cons_of_ne_nil some
  have vacant : files.get? (site ++ [first]) = none := by
    by_contra occupied
    have inside := mem_children.mpr occupied
    rw [empty] at inside
    cases inside
  by_cases last : rest = []
  · rw [last, vacant]
  · rw [List.append_cons]
    exact get?_below (by simp [vacant]) last

theorem Ground.gains (ground : files.Ground path site) (gains : files.Gains after) : after.Ground path site := by
  obtain ⟨told, ⟨left, leads⟩, below⟩ := ground
  refine ⟨told, ⟨left, ?_⟩, fun names some => ?_⟩
  · rw [show after.origin path = files.origin path by simp [origin, gains.home]]
    exact walkBy_kept gains.kept leads
  · rcases below names some with absent | directory
    · exact gains.fresh _ absent
    · exact .inr (gains.kept _ _ directory)

end WheelInstaller.FileSystem
