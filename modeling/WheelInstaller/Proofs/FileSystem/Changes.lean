import WheelInstaller.Proofs.FileSystem.Anchor

/-! How far a file system can have changed. Directories may be new in some places and files in others; a
directory that was there is never replaced, and everywhere else nothing changes. -/

namespace WheelInstaller.FileSystem

/-- Between two moments directories were only made in some places, and files only written in others. -/
structure Changes (made written : Location → Prop) (before after : FileSystem) : Prop where
  plain : after.Plain
  home : after.home = before.home
  get? : ∀ location, after.get? location = before.get? location ∨
    (made location ∧ before.get? location = none ∧ after.get? location = some .directory) ∨
    (written location ∧ before.get? location ≠ some .directory ∧
      ∃ mode content, after.get? location = some (.file mode content))

namespace Changes

variable {made more written others : Location → Prop} {before middle after : FileSystem} {location : Location}

theorem refl (plain : before.Plain) : Changes made written before before :=
  ⟨plain, rfl, fun _ => .inl rfl⟩

theorem of_eq (plain : before.Plain) (same : after = before) : Changes made written before after := by
  subst same
  exact refl plain

theorem trans (first : Changes made written before middle) (second : Changes made written middle after) :
    Changes made written before after := by
  refine ⟨second.plain, second.home.trans first.home, fun location => ?_⟩
  rcases second.get? location with same | ⟨allowed, absent, there⟩ | ⟨allowed, noDirectory, file⟩
  · rw [same]
    exact first.get? location
  · rcases first.get? location with same | ⟨-, -, found⟩ | ⟨-, -, mode, content, found⟩
    · exact .inr (.inl ⟨allowed, same ▸ absent, there⟩)
    · rw [absent] at found; cases found
    · rw [absent] at found; cases found
  · rcases first.get? location with same | ⟨-, -, found⟩ | ⟨-, kept, -⟩
    · exact .inr (.inr ⟨allowed, same ▸ noDirectory, file⟩)
    · exact absurd found noDirectory
    · exact .inr (.inr ⟨allowed, kept, file⟩)

theorem weaken (changes : Changes made written before after) (implies : ∀ location, made location → more location)
    (extends_ : ∀ location, written location → others location) : Changes more others before after :=
  ⟨changes.plain, changes.home, fun location => (changes.get? location).imp_right
    (Or.imp (.imp_left (implies location)) (.imp_left (extends_ location)))⟩

theorem of_grows (grows : before.Grows made after) : Changes made written before after :=
  ⟨grows.plain, grows.home, fun location => (grows.get? location).imp_right .inl⟩

theorem of_replaces {mode : Nat} {content : ByteArray} (allowed : written location)
    (replaces : before.Replaces location mode content after) : Changes made written before after := by
  refine ⟨replaces.plain, replaces.home, fun other => ?_⟩
  by_cases same : other = location
  · subst same
    exact .inr (.inr ⟨allowed, replaces.free, mode, content, replaces.same⟩)
  · exact .inl (replaces.other same)

theorem of_writes {path : Path} (allowed : written (path.locate before.home)) (writes : before.Writes path after) :
    Changes made written before after :=
  writes.replaces.elim fun _ ⟨_, replaces⟩ => of_replaces allowed replaces

theorem of_append (plain : before.Plain) (allowed : written location) {bytes : ByteArray}
    {outcome : Except OsError Unit}
    (ran : (append location bytes).run before = (outcome, after)) : Changes made written before after := by
  by_cases there : ∃ mode content, before.get? location = some (.file mode content)
  · obtain ⟨mode, content, found⟩ := there
    obtain ⟨files, appended, replaces⟩ := append_file plain bytes found
    cases appended.symm.trans ran
    exact of_replaces allowed replaces
  · cases (append_other fun mode content found => there ⟨mode, content, found⟩).symm.trans ran
    exact refl plain

variable (changes : Changes made written before after)
include changes

theorem directory (found : before.get? location = some .directory) : after.get? location = some .directory := by
  rcases changes.get? location with same | ⟨-, absent, -⟩ | ⟨-, noDirectory, -⟩
  · exact same.trans found
  · rw [absent] at found; cases found
  · exact absurd found noDirectory

theorem kept (spared : ¬ written location) {node : Node} (found : before.get? location = some node) :
    after.get? location = some node := by
  rcases changes.get? location with same | ⟨-, absent, -⟩ | ⟨written, -⟩
  · exact same.trans found
  · rw [absent] at found; cases found
  · exact absurd written spared

theorem same (spared : ¬ written location) (unmade : ¬ made location) : after.get? location = before.get? location := by
  rcases changes.get? location with same | ⟨made, -⟩ | ⟨written, -⟩
  · exact same
  · exact absurd made unmade
  · exact absurd written spared

theorem persists : Persists before after := by
  intro location node found
  rcases changes.get? location with same | ⟨-, absent, -⟩ | ⟨-, noDirectory, mode, content, file⟩
  · exact ⟨node, same.trans found, id⟩
  · rw [absent] at found; cases found
  · exact ⟨_, file, fun directory => absurd (directory ▸ found) noDirectory⟩

end Changes

/-- Between two moments things were only taken away, in some places. -/
structure Shrinks (gone : Location → Prop) (before after : FileSystem) : Prop where
  plain : after.Plain
  home : after.home = before.home
  get? : ∀ location, after.get? location = before.get? location ∨ (gone location ∧ after.get? location = none)

namespace Shrinks

variable {gone more : Location → Prop} {before middle after : FileSystem} {location : Location}

theorem refl (plain : before.Plain) : Shrinks gone before before :=
  ⟨plain, rfl, fun _ => .inl rfl⟩

theorem of_eq (plain : before.Plain) (same : after = before) : Shrinks gone before after := by
  subst same
  exact refl plain

theorem trans (first : Shrinks gone before middle) (second : Shrinks gone middle after) :
    Shrinks gone before after := by
  refine ⟨second.plain, second.home.trans first.home, fun location => ?_⟩
  rcases second.get? location with same | lost
  · rw [same]
    exact first.get? location
  · exact .inr lost

theorem weaken (shrinks : Shrinks gone before after) (implies : ∀ location, gone location → more location) :
    Shrinks more before after :=
  ⟨shrinks.plain, shrinks.home, fun location => (shrinks.get? location).imp_right (.imp_left (implies location))⟩

theorem of_removes (removes : before.Removes location after) : Shrinks (location <+: ·) before after := by
  refine ⟨removes.plain, removes.home, fun other => ?_⟩
  rw [removes.get?]
  split
  next below => exact .inr ⟨below, rfl⟩
  next => exact .inl rfl

theorem of_clears (found : before.get? location = some .directory) (clears : before.Clears location after) :
    Shrinks (location <+: ·) before after := by
  refine ⟨clears.plain, clears.home, fun other => ?_⟩
  by_cases below : location <+: other
  · by_cases here : other = location
    · subst here
      exact clears.here.symm.imp (·.trans found.symm) (⟨below, ·⟩)
    · exact .inr ⟨below, clears.below other below here⟩
  · exact .inl (clears.other other below)

theorem absent (shrinks : Shrinks gone before after) (vacant : before.get? location = none) :
    after.get? location = none := by
  rcases shrinks.get? location with same | ⟨-, lost⟩
  · exact same.trans vacant
  · exact lost

theorem same (shrinks : Shrinks gone before after) (spared : ¬ gone location) :
    after.get? location = before.get? location :=
  (shrinks.get? location).resolve_right fun lost => spared lost.1

end Shrinks

/-- Some of what is below a location is taken away, one thing after another. -/
inductive Thins (location : Location) : (before after : FileSystem) → Prop where
  | nothing (files : FileSystem) : Thins location files files
  | more {before after : FileSystem} {inner : Location} (below : location <+: inner) (apart : inner ≠ location)
      (there : before.get? inner ≠ none) (others : Thins location (before.erase inner) after) :
      Thins location before after

theorem Thins.shrinks {location : Location} {before after : FileSystem} (thins : Thins location before after)
    (plain : before.Plain) : Shrinks (location <+: ·) before after := by
  induction thins with
  | nothing => exact .refl plain
  | @more before after inner below apart there others ih =>
    have inside : inner ≠ [] := by
      rintro rfl
      exact apart (List.prefix_nil.mp below).symm
    have removes : before.Removes inner (before.erase inner) := .erase plain (.of_get? plain there inside)
    have first : Shrinks (location <+: ·) before (before.erase inner) :=
      (Shrinks.of_removes removes).weaken fun _ => below.trans
    exact first.trans (ih removes.plain)

end WheelInstaller.FileSystem
