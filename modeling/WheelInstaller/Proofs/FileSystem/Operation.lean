import WheelInstaller.Proofs.FileSystem.Lookup
import WheelInstaller.Proofs.Path.Parents

/-! What operations do without links. One that succeeds changes the location of its path and nothing else;
one that fails changes nothing, unless it makes or clears directories. -/

namespace WheelInstaller.FileSystem

variable {files after : FileSystem} {path : Path} {location : Location} {error : OsError} {α β : Type}

/-! Actions run one after the other. -/

section Running

variable {action : Action α} {next : α → Action β}

theorem run_bind_eq (action : Action α) (next : α → Action β) (files : FileSystem) :
    (action >>= next).run files =
      match action.run files with
      | (.ok value, after) => (next value).run after
      | (.error error, after) => (.error error, after) := by
  change (ExceptT.bind action next).run files = _
  unfold ExceptT.bind ExceptT.mk
  change (StateT.bind action (ExceptT.bindCont next)) files = _
  unfold StateT.bind
  change ExceptT.bindCont next (action.run files).1 (action.run files).2 = _
  cases action.run files with
  | mk outcome after => cases outcome <;> rfl

@[simp] theorem run_inspect (look : FileSystem → Except OsError α) (files : FileSystem) :
    (inspect look).run files = (look files, files) := by
  unfold inspect
  rw [run_bind_eq]
  have got : (get : Action FileSystem).run files = (.ok files, files) := rfl
  rw [got]
  cases found : look files <;> simp only [found] <;> rfl

@[simp] theorem run_pure (value : α) (files : FileSystem) : (pure value : Action α).run files =
    (.ok value, files) := rfl

@[simp] theorem run_throw (error : OsError) (files : FileSystem) :
    (throw error : Action α).run files = (.error error, files) := rfl

@[simp] theorem run_modify (change : FileSystem → FileSystem) (files : FileSystem) :
    (modify change : Action Unit).run files = (.ok (), change files) := rfl

@[simp] theorem run_get (files : FileSystem) : (get : Action FileSystem).run files = (.ok files, files) := rfl

@[simp] theorem run_set (after files : FileSystem) : (set after : Action Unit).run files = (.ok (), after) := rfl

theorem bind_eq_ok {value : β} (done : (action >>= next).run files = (.ok value, after)) :
    ∃ first middle, action.run files = (.ok first, middle) ∧ (next first).run middle = (.ok value, after) := by
  rw [run_bind_eq] at done
  split at done
  next first middle same => exact ⟨first, middle, same, done⟩
  next => cases done

theorem bind_eq_error (failed : (action >>= next).run files = (.error error, after)) :
    action.run files = (.error error, after) ∨
      ∃ first middle, action.run files = (.ok first, middle) ∧ (next first).run middle = (.error error, after) := by
  rw [run_bind_eq] at failed
  split at failed
  next first middle same => exact .inr ⟨first, middle, same, failed⟩
  next =>
    cases failed
    exact .inl ‹_›

theorem inspect_bind_ok {look : FileSystem → Except OsError α} {value : β}
    (done : (inspect look >>= next).run files = (.ok value, after)) :
    ∃ found, look files = .ok found ∧ (next found).run files = (.ok value, after) := by
  rw [run_bind_eq, run_inspect] at done
  cases looked : look files with
  | error error =>
    rw [looked] at done
    cases done
  | ok found => exact ⟨found, rfl, by simpa [looked] using done⟩

theorem inspect_bind_error {look : FileSystem → Except OsError α}
    (failed : (inspect look >>= next).run files = (.error error, after)) :
    after = files ∨ ∃ found, look files = .ok found ∧ (next found).run files = (.error error, after) := by
  rw [run_bind_eq, run_inspect] at failed
  cases looked : look files with
  | error error =>
    rw [looked] at failed
    cases failed
    exact .inl rfl
  | ok found => exact .inr ⟨found, rfl, by simpa [looked] using failed⟩

end Running

/-! Files. -/

/-- A file takes the place of what is at a location, if anything, and all else stays. -/
structure Replaces (files : FileSystem) (location : Location) (mode : Nat) (content : ByteArray)
    (after : FileSystem) : Prop where
  plain : after.Plain
  home : after.home = files.home
  room : files.Room location
  free : files.get? location ≠ some .directory
  get? : ∀ other, after.get? other = if other = location then some (.file mode content) else files.get? other

namespace Replaces

variable {mode : Nat} {content : ByteArray}

theorem put (plain : files.Plain) (room : files.Room location) (free : files.get? location ≠ some .directory) :
    files.Replaces location mode content (files.put location (.file mode content)) :=
  ⟨plain.put room (by simp), rfl, room, free, get?_put room free _⟩

theorem refl (plain : files.Plain) (found : files.get? location = some (.file mode content)) :
    files.Replaces location mode content files := by
  have below : location ≠ [] := by
    rintro rfl
    cases plain.get?_top.symm.trans found
  refine ⟨plain, rfl, .of_get? plain (by simp [found]) below, by simp [found], fun other => ?_⟩
  split
  next same => rw [same, found]
  next => rfl

theorem same (replaces : files.Replaces location mode content after) :
    after.get? location = some (.file mode content) := by
  simp [replaces.get?]

theorem other (replaces : files.Replaces location mode content after) {other : Location} (apart : other ≠ location) :
    after.get? other = files.get? other := by
  simp [replaces.get?, apart]

theorem trans {middle : FileSystem} {first second : Nat} {begun ended : ByteArray}
    (replaces : files.Replaces location first begun middle) (again : middle.Replaces location second ended after) :
    files.Replaces location second ended after := by
  refine ⟨again.plain, again.home.trans replaces.home, replaces.room, replaces.free, fun other => ?_⟩
  rw [again.get?, replaces.get?]
  split <;> rfl

theorem put_file (plain : files.Plain) {known : Node} (found : files.get? location = some known)
    (noDirectory : known ≠ .directory) : files.Replaces location mode content
    (files.put location (.file mode content)) := by
  have below : location ≠ [] := by
    rintro rfl
    rw [plain.get?_top] at found
    exact noDirectory (Option.some.inj found).symm
  exact put plain (.of_get? plain (by simp [found]) below) (by simpa [found] using noDirectory)

end Replaces

def modeAt (files : FileSystem) (location : Location) : Nat :=
  match files.get? location with
  | some (.file mode _) => mode
  | _ => newFileMode

theorem openSpot_ok (plain : files.Plain) {spot : Spot} (spotOf : SpotOf files path spot) {result : Location ⊕ Path}
    (done : (openSpot newFileMode true spot).run files = (.ok result, after)) :
    result = .inl (path.locate files.home) ∧
      files.Replaces (path.locate files.home) (files.modeAt (path.locate files.home)) .empty after := by
  unfold openSpot at done
  split at done
  next name last slash =>
    obtain ⟨known, inside, done⟩ := inspect_bind_ok done
    obtain ⟨short, rfl⟩ := nodeIn_eq_ok.mp inside
    obtain ⟨same, proper, -⟩ := spotOf.name name last
    have room := Room.in_directory plain spotOf.directory proper
    rw [same] at done room
    split at done
    next absent =>
      rw [run_bind_eq, run_modify] at done
      cases done
      refine ⟨rfl, ?_⟩
      rw [modeAt, absent]
      exact .put plain room (by simp [absent])
    next kept content occupied =>
      rw [if_pos rfl, run_bind_eq, run_modify] at done
      cases done
      refine ⟨rfl, ?_⟩
      rw [modeAt, occupied]
      exact .put_file plain occupied (by simp)
    next => cases done
    next link => exact absurd link plain.not_link
  next => cases done

theorem openSpot_error (plain : files.Plain) {spot : Spot} (spotOf : SpotOf files path spot)
    (failed : (openSpot newFileMode true spot).run files = (.error error, after)) : after = files := by
  unfold openSpot at failed
  split at failed
  next name last slash =>
    rcases inspect_bind_error failed with same | ⟨known, inside, failed⟩
    · exact same
    obtain ⟨-, rfl⟩ := nodeIn_eq_ok.mp inside
    rw [(spotOf.name name last).1] at failed
    split at failed
    · cases failed
    · rw [if_pos rfl] at failed
      cases failed
    · cases failed
      rfl
    next link => exact absurd link plain.not_link
  next =>
    cases failed
    rfl

theorem createFileAt_run (plain : files.Plain) {spot : Spot} (spotOf : SpotOf files path spot) (rounds : Nat) :
    (createFileAt newFileMode true rounds spot).run files =
      match (openSpot newFileMode true spot).run files with
      | (.ok _, after) => (.ok (path.locate files.home), after)
      | (.error error, after) => (.error error, after) := by
  cases opened : (openSpot newFileMode true spot).run files with
  | mk outcome after =>
    cases outcome with
    | error error => cases rounds <;> simp [createFileAt, run_bind_eq, opened]
    | ok result =>
      obtain ⟨rfl, -⟩ := openSpot_ok plain spotOf opened
      cases rounds <;> simp [createFileAt, run_bind_eq, opened]

theorem createFile_eq_ok (plain : files.Plain) (done : (createFile path).run files = (.ok location, after)) :
    location = path.locate files.home ∧ ∃ spot result, files.spot path = .ok spot ∧
      (openSpot newFileMode true spot).run files = (.ok result, after) := by
  obtain ⟨spot, found, rest⟩ := inspect_bind_ok done
  rw [createFileAt_run plain (spot_sound plain found)] at rest
  split at rest
  next opened =>
    cases rest
    exact ⟨rfl, spot, _, found, opened⟩
  next => cases rest

theorem createFile_ok (plain : files.Plain) (done : (createFile path).run files = (.ok location, after)) :
    location = path.locate files.home ∧ files.Replaces location (files.modeAt location) .empty after := by
  obtain ⟨rfl, spot, result, found, opened⟩ := createFile_eq_ok plain done
  exact ⟨rfl, (openSpot_ok plain (spot_sound plain found) opened).2⟩

theorem createFile_error (plain : files.Plain) (failed : (createFile path).run files = (.error error, after)) :
    after = files := by
  rcases inspect_bind_error failed with same | ⟨spot, found, rest⟩
  · exact same
  have spotOf := spot_sound plain found
  rw [createFileAt_run plain spotOf] at rest
  split at rest
  next => cases rest
  next opened =>
    cases rest
    exact openSpot_error plain spotOf opened

theorem append_file (plain : files.Plain) (bytes : ByteArray) {mode : Nat} {content : ByteArray}
    (found : files.get? location = some (.file mode content)) :
    ∃ after, (append location bytes).run files = (.ok (), after) ∧
      files.Replaces location mode (content ++ bytes) after := by
  refine ⟨_, ?_, .put_file plain found (by simp)⟩
  unfold append
  rw [run_bind_eq, run_get]
  simp only [found]
  rfl

theorem append_other {bytes : ByteArray} (noFile : ∀ mode content, files.get? location ≠ some (.file mode content)) :
    (append location bytes).run files = (.ok (), files) := by
  unfold append
  rw [run_bind_eq, run_get]
  cases found : files.get? location with
  | none => simp [found]
  | some node =>
    cases node with
    | file mode content => exact absurd found (noFile mode content)
    | directory | link => simp [found]

theorem writeFile_ok (plain : files.Plain) {content : ByteArray}
    (done : (writeFile path content).run files = (.ok (), after)) :
    files.Replaces (path.locate files.home) (files.modeAt (path.locate files.home)) content after := by
  obtain ⟨location, middle, created, done⟩ := bind_eq_ok done
  obtain ⟨rfl, replaces⟩ := createFile_ok plain created
  obtain ⟨last, appended, again⟩ := append_file replaces.plain content replaces.same
  rw [appended] at done
  cases done
  rw [ByteArray.empty_append] at again
  exact replaces.trans again

theorem writeFile_error (plain : files.Plain) {content : ByteArray}
    (failed : (writeFile path content).run files = (.error error, after)) : after = files := by
  rcases bind_eq_error failed with failed | ⟨location, middle, created, failed⟩
  · exact createFile_error plain failed
  obtain ⟨rfl, replaces⟩ := createFile_ok plain created
  obtain ⟨last, appended, again⟩ := append_file replaces.plain content replaces.same
  rw [appended] at failed
  cases failed

theorem setMode_ok (plain : files.Plain) {mode : Nat} (done : (setMode path mode).run files = (.ok (), after)) :
    (files.get? (path.locate files.home) = some .directory ∧ after = files) ∨
      ∃ old content, files.get? (path.locate files.home) = some (.file old content) ∧
        files.Replaces (path.locate files.home) (permissions mode) content after := by
  obtain ⟨⟨location, node⟩, found, done⟩ := inspect_bind_ok done
  obtain ⟨rfl, there⟩ := status_sound plain found
  cases node with
  | file old content =>
    cases done
    exact .inr ⟨old, content, there, .put_file plain there (by simp)⟩
  | directory =>
    cases done
    exact .inl ⟨there, rfl⟩
  | link => exact absurd there plain.not_link

theorem setMode_error {mode : Nat} (failed : (setMode path mode).run files = (.error error, after)) :
    after = files := by
  rcases inspect_bind_error failed with same | ⟨⟨location, node⟩, found, rest⟩
  · exact same
  · cases node <;> cases rest

theorem copyFile_ok (plain : files.Plain) {source target : Path} {count : Nat}
    (done : (copyFile source target).run files = (.ok count, after)) :
    ∃ mode content, files.status true source = .ok (source.locate files.home, .file mode content) ∧
      files.Replaces (target.locate files.home) mode
        (if target.locate files.home = source.locate files.home then .empty else content) after := by
  obtain ⟨⟨origin, node⟩, found, rest⟩ := inspect_bind_ok done
  obtain ⟨rfl, there⟩ := status_sound plain found
  cases node with
  | link | directory => cases rest
  | file mode content =>
    refine ⟨mode, content, found, ?_⟩
    obtain ⟨location, created, opened, rest⟩ := bind_eq_ok rest
    obtain ⟨rfl, replaces⟩ := createFile_ok plain opened
    rw [run_bind_eq, run_get] at rest
    have kept := replaces.get? (source.locate files.home)
    by_cases same : target.locate files.home = source.locate files.home
    · rw [if_pos same.symm] at kept
      simp only [kept] at rest
      cases rest
      rw [if_pos same]
      exact replaces.trans (.put_file replaces.plain replaces.same (by simp))
    · rw [if_neg (Ne.symm same), there] at kept
      simp only [kept] at rest
      cases rest
      rw [if_neg same]
      exact replaces.trans (.put_file replaces.plain replaces.same (by simp))

theorem copyFile_error (plain : files.Plain) {source target : Path}
    (failed : (copyFile source target).run files = (.error error, after)) : after = files := by
  rcases inspect_bind_error failed with same | ⟨⟨origin, node⟩, found, rest⟩
  · exact same
  cases node with
  | link | directory =>
    cases rest
    rfl
  | file mode content =>
    rcases bind_eq_error rest with early | ⟨location, created, opened, rest⟩
    · exact createFile_error plain early
    · rw [run_bind_eq, run_get] at rest
      dsimp only at rest
      split at rest <;> cases rest

/-! Taking away and moving. -/

/-- A location is taken away with everything below it, and all else stays. -/
structure Removes (files : FileSystem) (location : Location) (after : FileSystem) : Prop where
  plain : after.Plain
  home : after.home = files.home
  get? : ∀ other, after.get? other = if location <+: other then none else files.get? other

theorem Removes.erase (plain : files.Plain) (room : files.Room location) :
    files.Removes location (files.erase location) :=
  ⟨plain.erase room, rfl, get?_erase plain room⟩

theorem removeFile_eq_ok (done : (removeFile path).run files = (.ok (), after)) :
    ∃ spot name node, files.Finds path spot name (some node) ∧ node ≠ .directory ∧ spot.slash = false ∧
      after = files.erase (spot.directory ++ [name]) := by
  obtain ⟨spot, found, rest⟩ := inspect_bind_ok done
  split at rest
  next name last =>
    obtain ⟨known, inside, rest⟩ := inspect_bind_ok rest
    split at rest
    next => cases rest
    next => cases rest
    next node noDirectory =>
      split at rest
      next => cases rest
      next slash =>
        cases rest
        exact ⟨spot, name, node, ⟨found, last, inside⟩, noDirectory, by simpa using slash, rfl⟩
  next => cases rest

theorem removeFile_ok (plain : files.Plain) (done : (removeFile path).run files = (.ok (), after)) :
    files.get? (path.locate files.home) ≠ some .directory ∧ files.Removes (path.locate files.home) after := by
  obtain ⟨spot, name, node, finds, noDirectory, -, rfl⟩ := removeFile_eq_ok done
  have found := finds.get?
  rw [finds.locate plain] at found ⊢
  exact ⟨by simpa [found] using noDirectory, .erase plain (finds.room plain)⟩

theorem removeFile_error (failed : (removeFile path).run files = (.error error, after)) : after = files := by
  rcases inspect_bind_error failed with same | ⟨spot, found, rest⟩
  · exact same
  split at rest
  next name last =>
    rcases inspect_bind_error rest with same | ⟨known, inside, final⟩
    · exact same
    split at final
    · cases final; rfl
    · cases final; rfl
    · split at final
      · cases final; rfl
      · cases final
  next =>
    cases rest
    rfl

/-- Nothing but directories is above what is there, or above room for something. -/
theorem Room.not_below (room : files.Room location) {other : Location}
    (noDirectory : files.get? other ≠ some .directory) (apart : other ≠ location) : ¬ other <+: location := by
  rintro ⟨rest, split⟩
  obtain ⟨⟨directory, name, rfl, found⟩, -⟩ := room
  rcases List.eq_nil_or_concat' rest with rfl | ⟨inner, last, rfl⟩
  · exact apart (by simpa using split)
  · rw [← List.append_assoc] at split
    obtain ⟨rfl, -⟩ := List.append_inj' split rfl
    by_cases same : inner = []
    · exact noDirectory (by simpa [same] using found)
    · exact noDirectory (get?_above (by simp [found]) same)

theorem get?_move_file (plain : files.Plain) {old new : Location} {mode : Nat} {content : ByteArray}
    (found : files.get? old = some (.file mode content)) (room : files.Room new)
    (free : files.get? new ≠ some .directory) (apart : old ≠ new) :
    ((files.erase new).move old new).Plain ∧
      ∀ other, ((files.erase new).move old new).get? other =
        if other = new then some (.file mode content) else if other = old then none else files.get? other := by
  have below : old ≠ [] := by
    rintro rfl
    rw [plain.get?_top] at found
    cases found
  have oldRoom : files.Room old := .of_get? plain (by simp [found]) below
  -- Neither place lies below the other, so that taking one away does not take the other with it.
  have notAbove : ¬ new <+: old := oldRoom.not_below free (Ne.symm apart)
  have notBelow : ¬ old <+: new := room.not_below (by simp [found]) apart
  have erased := plain.erase room
  have kept : (files.erase new).get? old = some (.file mode content) := by
    rw [get?_erase plain room, if_neg notAbove, found]
  have twice := erased.erase (.of_get? erased (by simp [kept]) below)
  have gone (other : Location) : ((files.erase new).erase old).get? other =
      if old <+: other then none else if new <+: other then none else files.get? other := by
    rw [get?_erase erased (.of_get? erased (by simp [kept]) below), get?_erase plain room]
  have spare : ((files.erase new).erase old).Room new := by
    obtain ⟨⟨directory, name, rfl, here⟩, proper⟩ := room
    refine ⟨⟨directory, name, rfl, ?_⟩, proper⟩
    rw [gone, if_neg fun above => notBelow (above.trans (List.prefix_append ..)),
      if_neg fun above => absurd above.length_le (by simp), here]
  have same : (files.erase new).move old new = ((files.erase new).erase old).put new (.file mode content) := by
    obtain ⟨tree, there, node⟩ := get?_eq_some.mp kept
    cases tree <;> cases node
    simp [move, there, put, Tree.ofNode]
  have vacant : ((files.erase new).erase old).get? new ≠ some .directory := by
    simp [gone, notBelow]
  refine ⟨same ▸ twice.put spare (by simp), fun other => ?_⟩
  rw [same, get?_put spare vacant, gone]
  by_cases isNew : other = new
  · simp [isNew]
  · by_cases isOld : other = old
    · simp [isOld, apart]
    · rw [if_neg isNew, if_neg isNew, if_neg isOld]
      by_cases belowOld : old <+: other
      · obtain ⟨rest, rfl⟩ := belowOld
        rw [if_pos (List.prefix_append ..), get?_below (by simp [found]) (by simpa using isOld)]
      · rw [if_neg belowOld]
        by_cases belowNew : new <+: other
        · obtain ⟨rest, rfl⟩ := belowNew
          rw [if_pos (List.prefix_append ..), get?_below free (by simpa using isNew)]
        · rw [if_neg belowNew]

theorem rename_file (plain : files.Plain) {source target : Path} {mode : Nat} {content : ByteArray}
    (found : files.get? (source.locate files.home) = some (.file mode content))
    (apart : source.locate files.home ≠ target.locate files.home)
    (done : (rename source target).run files = (.ok (), after)) :
    after.Plain ∧ after.home = files.home ∧ files.get? (target.locate files.home) ≠ some .directory ∧
      ∀ other, after.get? other =
        if other = target.locate files.home then some (.file mode content)
        else if other = source.locate files.home then none else files.get? other := by
  obtain ⟨-, -, done⟩ := inspect_bind_ok done
  obtain ⟨-, -, done⟩ := inspect_bind_ok done
  obtain ⟨origin, sourceSpot, done⟩ := inspect_bind_ok done
  obtain ⟨spot, targetSpot, done⟩ := inspect_bind_ok done
  split at done
  next oldName newName old new =>
    obtain ⟨old, -, -⟩ := (spot_sound plain sourceSpot).name oldName old
    obtain ⟨new, proper, -⟩ := (spot_sound plain targetSpot).name newName new
    have room := Room.in_directory plain (spot_sound plain targetSpot).directory proper
    obtain ⟨node, inside, done⟩ := inspect_bind_ok done
    obtain ⟨-, rfl⟩ := nodeIn_eq_ok.mp inside
    rw [old, new, found] at done
    rw [new] at room
    obtain ⟨-, -, done⟩ := inspect_bind_ok done
    split at done; · cases done
    split at done; · cases done
    split at done; · cases done
    obtain ⟨_, replaceable, done⟩ := inspect_bind_ok done
    cases done
    have free : files.get? (target.locate files.home) ≠ some .directory := by
      intro directory
      simp [checkReplacement, directory, Node.isDirectory] at replaceable
    obtain ⟨plain, found⟩ := get?_move_file plain found room free apart
    exact ⟨plain, move_home _ _ _, free, found⟩
  next => cases done

theorem rename_error {source target : Path} (failed : (rename source target).run files = (.error error, after)) :
    after = files := by
  rcases inspect_bind_error failed with same | ⟨-, -, failed⟩
  · exact same
  rcases inspect_bind_error failed with same | ⟨-, -, failed⟩
  · exact same
  rcases inspect_bind_error failed with same | ⟨origin, -, failed⟩
  · exact same
  rcases inspect_bind_error failed with same | ⟨spot, -, failed⟩
  · exact same
  split at failed
  next =>
    rcases inspect_bind_error failed with same | ⟨node, -, failed⟩
    · exact same
    split at failed
    · cases failed; rfl
    rcases inspect_bind_error failed with same | ⟨-, -, failed⟩
    · exact same
    split at failed; · cases failed; rfl
    split at failed; · cases failed; rfl
    split at failed; · cases failed
    split at failed; · cases failed; rfl
    rcases inspect_bind_error failed with same | ⟨-, -, failed⟩
    · exact same
    · cases failed
  next =>
    cases failed
    rfl

/-! What can be found can be read. -/

theorem readFile_of_exists? (plain : files.Plain) {mode : Nat} {content : ByteArray} (found : files.exists? path = true)
    (there : files.get? (path.locate files.home) = some (.file mode content)) : files.readFile path = .ok content := by
  obtain ⟨location, node, found⟩ := status_of_exists? found
  obtain ⟨rfl, occupied⟩ := status_sound plain found
  cases occupied.symm.trans there
  simp [readFile, found, bind, Except.bind, pure, Except.pure]

/-! Listing a directory tells all names in it. -/

theorem readDirectory_ok (plain : files.Plain) {names : List String} (listed : files.readDirectory path = .ok names) :
    files.get? (path.locate files.home) = some .directory ∧ names = files.children (path.locate files.home) := by
  unfold readDirectory at listed
  cases found : files.status true path with
  | error error =>
    rw [found] at listed
    cases listed
  | ok result =>
    obtain ⟨location, node⟩ := result
    obtain ⟨rfl, there⟩ := status_sound plain found
    rw [found] at listed
    cases node with
    | directory =>
      cases listed
      exact ⟨there, rfl⟩
    | file | link => cases listed

theorem readDirectory_of_isDirectory (plain : files.Plain) (there : files.isDirectory path = true) :
    files.readDirectory path = .ok (files.children (path.locate files.home)) := by
  obtain ⟨location, found⟩ := status_of_isDirectory there
  obtain ⟨rfl, -⟩ := status_sound plain found
  simp [readDirectory, found, bind, Except.bind, pure, Except.pure]

theorem properName_of_readDirectory (plain : files.Plain) {names : List String}
    (listed : files.readDirectory path = .ok names) : ∀ name ∈ names, ProperName name := by
  intro name member
  obtain ⟨-, rfl⟩ := readDirectory_ok plain listed
  exact plain.proper (mem_children.mp member) name (by simp)

end WheelInstaller.FileSystem
