import WheelInstaller.Proofs.FileSystem.Changes
import WheelInstaller.Proofs.FileSystem.Linked
import WheelInstaller.Registry

/-! What is lost when paths are removed: what is at their ends, with all below, and nothing else. Links may be
anywhere, and a link at the end of a path is taken for itself. It takes directories that hold every name once; they go
on to do so whatever is done to them. -/

namespace WheelInstaller.FileSystem

/-- Every directory holds every name once. -/
def Distinct (files : FileSystem) : Prop :=
  files.top.Distinct

variable {files : FileSystem} {location : Location} {α β : Type}

theorem Plain.distinct (plain : files.Plain) : files.Distinct :=
  plain.sound.distinct

theorem Distinct.alter (distinct : files.Distinct) {change : Option Tree → Option Tree}
    (changed : ∀ inner, change (files.top.find? location) = some inner → inner.Distinct) :
    (files.alter location change).Distinct := by
  unfold FileSystem.alter
  cases done : Tree.alter change location (some files.top) with
  | none => exact distinct
  | some tree => exact Tree.distinct_alter distinct changed done

theorem Distinct.put (distinct : files.Distinct) (node : Node) : (files.put location node).Distinct := by
  refine distinct.alter fun inner same => ?_
  cases same
  exact Tree.distinct_ofNode node

theorem Distinct.erase (distinct : files.Distinct) : (files.erase location).Distinct :=
  distinct.alter nofun

theorem Distinct.clear (distinct : files.Distinct) : (files.clear location).Distinct := by
  refine distinct.alter fun inner same => ?_
  obtain ⟨tree, -, rfl⟩ := Option.map_eq_some_iff.mp same
  exact Tree.distinct_ofNode tree.node

theorem Thins.distinct {after : FileSystem} (thins : Thins location files after) (distinct : files.Distinct) :
    after.Distinct := by
  induction thins with
  | nothing => exact distinct
  | more _ _ _ _ ih => exact ih distinct.erase

theorem Distinct.move {target : Location} (distinct : files.Distinct) : (files.move location target).Distinct := by
  unfold FileSystem.move
  split
  next => exact distinct
  next tree found =>
    refine distinct.erase.alter fun inner same => ?_
    cases same
    exact Tree.Distinct.find? distinct found

/-- However the action ends, it leaves directories that hold every name once. -/
def KeepsDistinct (action : Action α) : Prop :=
  ∀ files, files.Distinct → (action.run files).2.Distinct

theorem KeepsDistinct.of_run {action : Action α} {outcome : Except OsError α} {after : FileSystem}
    (keeps : KeepsDistinct action) (ran : action.run files = (outcome, after)) (distinct : files.Distinct) :
    after.Distinct := by
  have kept := keeps files distinct
  rwa [ran] at kept

theorem keeps_pure (value : α) : KeepsDistinct (pure value) :=
  fun _ => id

theorem keeps_throw (error : OsError) : KeepsDistinct (throw error : Action α) :=
  fun _ => id

theorem keeps_inspect (look : FileSystem → Except OsError α) : KeepsDistinct (inspect look) := by
  intro files distinct
  rw [run_inspect]
  exact distinct

theorem keeps_modify {change : FileSystem → FileSystem}
    (keeps : ∀ files : FileSystem, files.Distinct → (change files).Distinct) :
    KeepsDistinct (modify change) :=
  keeps

theorem keeps_bind {action : Action α} {next : α → Action β} (first : KeepsDistinct action)
    (further : ∀ value, KeepsDistinct (next value)) :
    KeepsDistinct (action >>= next) := by
  intro files distinct
  have middle := first files distinct
  rw [run_bind_eq]
  cases ran : action.run files with
  | mk outcome after =>
    rw [ran] at middle
    cases outcome with
    | ok value => exact further value after middle
    | error error => exact middle

theorem keeps_get {next : FileSystem → Action α}
    (further : ∀ files : FileSystem, files.Distinct → ((next files).run files).2.Distinct) :
    KeepsDistinct (get >>= next) :=
  further

theorem keeps_makeDirectory (path : Path) : KeepsDistinct (makeDirectory path) := by
  refine keeps_bind (keeps_inspect _) fun spot => ?_
  split
  · refine keeps_bind (keeps_inspect _) fun found => ?_
    cases found
    · exact keeps_modify fun _ distinct => distinct.put _
    · exact keeps_throw _
  · exact keeps_throw _

theorem keeps_makeDirectoriesWithin (count : Nat) (path : Path) : KeepsDistinct (makeDirectoriesWithin count path) := by
  induction count generalizing path with
  | zero => exact keeps_pure ()
  | succ count ih =>
    intro files distinct
    obtain ⟨middle, above, last⟩ :=
      makeDirectoriesWithin_succ (Prod.eta ((makeDirectoriesWithin (count + 1) path).run files)).symm
    have kept : middle.Distinct := by
      obtain rfl | ⟨reached, ran⟩ := above
      · exact distinct
      · simpa only [ran] using ih (path.parent?.getD ⟨""⟩) files distinct
    obtain made | ⟨same, -⟩ := last
    · simpa only [made] using keeps_makeDirectory path middle kept
    · rwa [same]

theorem keeps_openSpot (mode : Nat) (empties : Bool) (spot : Spot) : KeepsDistinct (openSpot mode empties spot) := by
  unfold openSpot
  split
  · refine keeps_bind (keeps_inspect _) fun found => ?_
    split
    · exact keeps_bind (keeps_modify fun _ distinct => distinct.put _) fun _ => keeps_pure _
    · split
      · exact keeps_bind (keeps_modify fun _ distinct => distinct.put _) fun _ => keeps_pure _
      · exact keeps_pure _
    · exact keeps_throw _
    · exact keeps_pure _
  · exact keeps_throw _

theorem keeps_createFileAt (mode : Nat) (empties : Bool) (rounds : Nat) (spot : Spot) :
    KeepsDistinct (createFileAt mode empties rounds spot) := by
  induction rounds generalizing spot with
  | zero =>
    refine keeps_bind (keeps_openSpot mode empties spot) fun opened => ?_
    cases opened
    · exact keeps_pure _
    · exact keeps_throw _
  | succ rounds ih =>
    refine keeps_bind (keeps_openSpot mode empties spot) fun opened => ?_
    cases opened with
    | inl location => exact keeps_pure _
    | inr target =>
      dsimp only
      split
      · exact keeps_throw _
      · exact keeps_bind (keeps_inspect _) fun spot => ih spot

theorem keeps_createFile (path : Path) : KeepsDistinct (createFile path) :=
  keeps_bind (keeps_inspect _) fun spot => keeps_createFileAt _ _ _ spot

theorem keeps_append (location : Location) (bytes : ByteArray) : KeepsDistinct (append location bytes) := by
  refine keeps_get fun files distinct => ?_
  split
  · exact distinct.put _
  · exact distinct

theorem keeps_writeFile (path : Path) (content : ByteArray) : KeepsDistinct (writeFile path content) :=
  keeps_bind (keeps_createFile path) fun location => keeps_append location content

theorem keeps_setMode (path : Path) (mode : Nat) : KeepsDistinct (setMode path mode) := by
  refine keeps_bind (keeps_inspect _) fun found => ?_
  split
  · exact keeps_modify fun _ distinct => distinct.put _
  · exact keeps_pure ()

theorem keeps_copyFile (source target : Path) : KeepsDistinct (copyFile source target) := by
  refine keeps_bind (keeps_inspect _) fun found => ?_
  split
  · refine keeps_bind (keeps_createFile target) fun location => keeps_get fun files distinct => ?_
    split
    · exact distinct.put _
    · exact distinct
  · exact keeps_throw _

theorem keeps_removeFile (path : Path) : KeepsDistinct (removeFile path) := by
  refine keeps_bind (keeps_inspect _) fun spot => ?_
  split
  · refine keeps_bind (keeps_inspect _) fun found => ?_
    split
    · exact keeps_throw _
    · exact keeps_throw _
    · split
      · exact keeps_throw _
      · exact keeps_modify fun _ distinct => distinct.erase
  · exact keeps_throw _

theorem keeps_removeEmptyDirectory (path : Path) : KeepsDistinct (removeEmptyDirectory path) := by
  refine keeps_bind (keeps_inspect _) fun spot => ?_
  split
  · refine keeps_bind (keeps_inspect _) fun found => ?_
    split
    · exact keeps_throw _
    · refine keeps_get fun files distinct => ?_
      split
      · exact distinct.erase
      · exact distinct
    · exact keeps_throw _
  · exact keeps_throw _
  · exact keeps_throw _
  · exact keeps_throw _

theorem keeps_removeDirectory (path : Path) : KeepsDistinct (removeDirectory path) := by
  refine keeps_bind (keeps_inspect _) fun found => ?_
  split
  · exact keeps_removeFile path
  · refine keeps_bind (keeps_modify fun _ distinct => distinct.clear) fun _ files distinct => ?_
    have tried := keeps_removeEmptyDirectory path files distinct
    rw [run_tryCatch]
    split
    next done =>
      rw [done] at tried
      exact tried
    next error after failed =>
      rw [failed] at tried
      split <;> exact tried
  · exact keeps_throw _

theorem keeps_rename (source target : Path) : KeepsDistinct (rename source target) := by
  refine keeps_bind (keeps_inspect _) fun _ => keeps_bind (keeps_inspect _) fun _ => ?_
  refine keeps_bind (keeps_inspect _) fun origin => keeps_bind (keeps_inspect _) fun spot => ?_
  split
  · refine keeps_bind (keeps_inspect _) fun found => ?_
    split
    · exact keeps_throw _
    · refine keeps_bind (keeps_inspect _) fun _ => ?_
      split; · exact keeps_throw _
      split; · exact keeps_throw _
      split; · exact keeps_pure _
      split; · exact keeps_throw _
      exact keeps_bind (keeps_inspect _) fun _ => keeps_modify fun _ distinct => distinct.erase.move
  · exact keeps_throw _

/-! ### Removing -/

variable {middle after : FileSystem} {path : Path} {site : Location} {node : Node} {gone more : Location → Prop}

/-- Some of what is there may be lost, and all else stays as it is. -/
structure Loses (gone : Location → Prop) (files after : FileSystem) : Prop where
  distinct : after.Distinct
  home : after.home = files.home
  get? : ∀ location, after.get? location = files.get? location ∨ gone location ∧ after.get? location = none

/-- The path ends at the location or above it. -/
def Covers (files : FileSystem) (path : Path) (location : Location) : Prop :=
  ∃ site node, files.status false path = .ok (site, node) ∧ site <+: location

namespace Loses

theorem refl (distinct : files.Distinct) : Loses gone files files :=
  ⟨distinct, rfl, fun _ => .inl rfl⟩

theorem trans (first : Loses gone files middle) (second : Loses gone middle after) : Loses gone files after := by
  refine ⟨second.distinct, second.home.trans first.home, fun location => ?_⟩
  rcases second.get? location with same | lost
  · rw [same]
    exact first.get? location
  · exact .inr lost

theorem weaken (loses : Loses gone files after) (implies : ∀ location, gone location → more location) :
    Loses more files after :=
  ⟨loses.distinct, loses.home, fun location => (loses.get? location).imp_right fun ⟨lost, absent⟩ =>
    ⟨implies location lost, absent⟩⟩

theorem kept (loses : Loses gone files after) (found : after.get? location = some node) :
    files.get? location = some node := by
  rcases loses.get? location with same | ⟨-, absent⟩
  · exact same.symm.trans found
  · cases absent.symm.trans found

theorem status (loses : Loses gone files after) {follow : Bool} (found : after.status follow path = .ok (site, node)) :
    files.status follow path = .ok (site, node) := by
  obtain ⟨checked, left, walked⟩ := status_eq_walkBy.mp found
  have origin : after.origin path = files.origin path := by simp [FileSystem.origin, loses.home]
  rw [origin] at walked
  exact status_eq_walkBy.mpr ⟨checked, left, walkBy_kept (fun _ _ => loses.kept) walked⟩

theorem covers (loses : Loses gone files after) (covers : after.Covers path location) : files.Covers path location := by
  obtain ⟨site, node, found, above⟩ := covers
  exact ⟨site, node, loses.status found, above⟩

end Loses

section Removing

variable (distinct : files.Distinct)
include distinct

theorem loses_erase {name : String} (occupied : files.get? (site ++ [name]) ≠ none) :
    Loses (site ++ [name] <+: ·) files (files.erase (site ++ [name])) := by
  refine ⟨distinct.erase, rfl, fun location => ?_⟩
  rw [get?_erase_of distinct (by simp) (open_of_get? occupied)]
  split
  next below => exact .inr ⟨below, rfl⟩
  next => exact .inl rfl

theorem loses_clear (occupied : files.get? site ≠ none) : Loses (site <+: ·) files (files.clear site) := by
  refine ⟨distinct.clear, rfl, fun location => ?_⟩
  by_cases top : site = []
  · subst top
    have cleared : (files.clear []).top = .ofNode files.top.node := rfl
    cases location with
    | nil => simp [FileSystem.get?, cleared, Tree.find?]
    | cons name rest => simp [FileSystem.get?, cleared, Tree.find?, Tree.child?_ofNode]
  · rw [get?_clear_of distinct top occupied]
    split
    next below => exact .inr ⟨below.1, rfl⟩
    next => exact .inl rfl

theorem loses_removeFile {outcome : Except OsError Unit} (done : (removeFile path).run files = (outcome, after)) :
    Loses (files.Covers path) files after := by
  cases outcome with
  | error error =>
    cases removeFile_error done
    exact .refl distinct
  | ok =>
    obtain ⟨spot, name, node, finds, -, slash, rfl⟩ := removeFile_eq_ok done
    obtain ⟨-, -, -, written⟩ := walk_of_spot finds.found
    have ends : files.status false path = .ok (spot.directory ++ [name], node) :=
      finds.status (.inr ⟨rfl, written.symm.trans slash⟩)
    exact (loses_erase distinct (by simp [finds.get?])).weaken fun location below => ⟨_, node, ends, below⟩

theorem loses_removeEmptyDirectory {outcome : Except OsError Unit}
    (done : (removeEmptyDirectory path).run files = (outcome, after)) :
    Loses (files.Covers path) files after := by
  cases outcome with
  | error error =>
    cases removeEmptyDirectory_error done
    exact .refl distinct
  | ok =>
    obtain ⟨spot, name, finds, rfl⟩ := removeEmptyDirectory_eq_ok done
    have ends : files.status false path = .ok (spot.directory ++ [name], .directory) :=
      finds.status (.inl rfl)
    exact (loses_erase distinct (by simp [finds.get?])).weaken fun location below => ⟨_, _, ends, below⟩

theorem loses_removeDirectory {outcome : Except OsError Unit}
    (done : (removeDirectory path).run files = (outcome, after)) :
    Loses (files.Covers path) files after := by
  rcases removeDirectory_cases done with ⟨rfl, -⟩ | ⟨-, -, -, removed⟩ | ⟨site, reached, found, removed, -⟩
  · exact .refl distinct
  · exact loses_removeFile distinct removed
  · have cleared : Loses (files.Covers path) files (files.clear site) :=
      (loses_clear distinct (by simp [get?_of_status found])).weaken fun location below =>
        ⟨site, .directory, found, below⟩
    exact cleared.trans ((loses_removeEmptyDirectory cleared.distinct removed).weaken fun _ => cleared.covers)

end Removing

end WheelInstaller.FileSystem

namespace WheelInstaller.Registry

open FileSystem (Loses)

variable {files : FileSystem} {paths : List Path}

theorem loses_removePath (distinct : files.Distinct) (path : Path) : Loses (files.Covers path) files
    (removePath files path).2 := by
  unfold removePath
  split
  · exact FileSystem.loses_removeDirectory distinct rfl
  · split
    · exact FileSystem.loses_removeFile distinct rfl
    · exact .refl distinct

theorem loses_removePaths (distinct : files.Distinct) :
    Loses (fun location => ∃ path ∈ paths, files.Covers path location) files (removePaths paths files).2 := by
  induction paths generalizing files with
  | nil => exact .refl distinct
  | cons path rest ih =>
    have first := loses_removePath distinct path
    refine (first.weaken fun location covers => ⟨path, by simp, covers⟩).trans ((ih first.distinct).weaken ?_)
    rintro location ⟨other, member, covers⟩
    exact ⟨other, by simp [member], first.covers covers⟩

theorem get?_cleanUp {registry : Registry} {location : Location} (distinct : files.Distinct)
    (spared : ∀ path ∈ registry.paths, ¬ files.Covers path location) : (registry.cleanUp files).2.get? location =
    files.get? location := by
  rcases (loses_removePaths distinct).get? location with same | ⟨⟨path, member, covers⟩, -⟩
  · exact same
  · exact absurd covers (spared path (List.mem_reverse.mp member))

end WheelInstaller.Registry
