import WheelInstaller.Proofs.FileSystem.Reach
import WheelInstaller.Proofs.Host.Steady
import WheelInstaller.Proofs.Install.Preparation

/-! Keeping the archive. On a steady host that is certain of canonical paths the archive is recognized wherever it is,
so it is never copied onto itself. -/

namespace WheelInstaller.Install

open Host Host.Rules FileSystem

variable {request : Request} {world : World} {files : FileSystem} {path destination : Path}

section Recognizing

variable {certain : Prop} {source : Option Path}

/-- The archive is somewhere inside the target. -/
def Request.ArchiveInside (request : Request) (home : Location) : Prop :=
  request.Inside home (request.archive.locate home)

theorem Request.SourceAt.inside {name : String} (source : request.SourceAt files (request.directory / name))
    (plain : files.Plain) (proper : ProperName name) : request.ArchiveInside files.home :=
  ⟨name, [], by rw [← source.locate plain, Path.locate_div proper]⟩

theorem Opened.Known.archiveInside {opened : Opened} (known : opened.Known request) (plain : files.Plain)
    (source : request.SourceAt files opened.retained) : request.ArchiveInside files.home := by
  obtain ⟨name, -, proper, path⟩ := retainedPath_eq_ok known.retained
  exact (path ▸ source).inside plain proper

/-- What the canonical path of the archive is taken to be is right, and if `certain`, it is not missed. -/
structure Request.Identifies (request : Request) (certain : Prop) (files : FileSystem)
    (source : Option Path) : Prop where
  right : ∀ canonical, source = some canonical → files.canonicalize request.archive = .ok canonical
  found : certain → ∀ canonical, files.canonicalize request.archive = .ok canonical → source = some canonical

theorem safe_sourceIdentity_steady :
    (steady certain).Safe (fun source after => after = world ∧ request.Identifies certain world.files source)
      (sourceIdentity request) world := by
  refine ⟨trivial, fun answer after replies => ?_⟩
  obtain ⟨rfl, right⟩ := replies.1.canonicalize
  have served (sure : certain) := (replies.2 sure _ rfl).canonicalize.2
  cases answer with
  | ok found => exact ⟨rfl, fun canonical same => Option.some.inj same ▸ right found rfl, fun sure canonical known =>
      congrArg some (Except.ok.inj ((served sure canonical).mpr known))⟩
  | error error => exact ⟨rfl, nofun, fun sure canonical known => nomatch (served sure canonical).mpr known⟩

theorem safe_isSource_steady (known : request.Identifies certain world.files source)
    (discerns : request.SourceAt world.files path → certain) :
    (steady certain).Safe
    (fun isArchive after => after = world ∧ (isArchive = true ↔ request.SourceAt world.files path))
      (isSource source path) world := by
  by_cases leads : request.SourceAt world.files path
  · have sure := discerns leads
    obtain ⟨canonical, other, archive, there, same⟩ := leads
    cases known.found sure canonical archive
    refine ⟨trivial, fun answer after replies => ?_⟩
    obtain ⟨rfl, told⟩ := (replies.2 sure _ rfl).canonicalize
    cases (told other).mpr there
    exact ⟨rfl, fun _ => ⟨canonical, other, archive, there, same⟩, fun _ => same⟩
  · exact (safe_isSource orderly_steady (fun _ => trivial) known.right).weaken fun _ _ ⟨here, right⟩ =>
      ⟨here, right, fun there => absurd there leads⟩

theorem safe_withoutSource_steady {paths : List Path} (known : request.Identifies certain world.files source)
    (discerns : ∀ path ∈ paths, request.SourceAt world.files path → certain) :
    (steady certain).Safe
      (fun kept after => after = world ∧ kept = paths.filter fun path => ¬ request.SourceAt world.files path)
      (withoutSource source paths) world := by
  induction paths with
  | nil => exact ⟨rfl, rfl⟩
  | cons path rest ih =>
    obtain ⟨first, others⟩ := List.forall_mem_cons.mp discerns
    unfold withoutSource
    rw [safe_bind]
    refine (safe_isSource_steady known first).weaken fun isArchive after told => ?_
    obtain ⟨same, recognized⟩ := told
    subst same
    rw [safe_bind]
    refine (ih others).weaken fun others after told => ?_
    obtain ⟨same, rfl⟩ := told
    refine ⟨same, ?_⟩
    subst same
    cases isArchive with
    | true => simp [recognized.mp rfl]
    | false =>
      have apart : ¬ request.SourceAt after.files path := by
        intro source
        cases recognized.mpr source
      simp [apart]

end Recognizing

/-- What keeping a copy leaves, and which paths it notes. -/
inductive Retains (request : Request) (destination : Path) (before : World) : List Path → World → Prop where
  | already (source : request.SourceAt before.files destination) : Retains request destination before [] before
  | copied {after : World} {mode : Nat} {content : ByteArray} (apart : ¬ request.SourceAt before.files destination)
      (found : before.files.status true request.archive =
        .ok (request.archive.locate before.files.home, .file mode content))
      (replaces : before.files.Replaces (destination.locate before.files.home) mode
        (if destination.locate before.files.home = request.archive.locate before.files.home
          then .empty else content) after.files)
      (anchored : destination.hasTrailingSlash = false ∧ ∃ directory name,
        before.files.Anchored destination directory name)
      (noted : after.registry = before.registry.add destination) :
        Retains request destination before [destination] after

/-- What has come of a copy: nothing, or something in its place. -/
def Copying (request : Request) (destination : Path) (before after : FileSystem) : Prop :=
  after = before ∨ (∃ mode content, before.status true request.archive =
    .ok (request.archive.locate before.home, .file mode content)) ∧ before.Writes destination after

theorem Copying.same {before after : FileSystem} (copying : Copying request destination before after)
    {location : Location} (apart : location ≠ destination.locate before.home) :
    after.get? location = before.get? location := by
  rcases copying with rfl | ⟨-, writes⟩
  · rfl
  · exact writes.other apart

/-- A copy that is made is noted first, whatever becomes of it. -/
theorem safe_copy_noted {rules : Rules World} (orderly : rules.Orderly) (ready : ∀ wanted now, rules.permits wanted now)
    (plain : world.files.Plain) :
    rules.Safe (Ends
      (fun noted after => noted = [destination] ∧ after.registry = world.registry.add destination ∧ ∃ mode content,
        world.files.status true request.archive = .ok (request.archive.locate world.files.home, .file mode content) ∧
          world.files.Replaces (destination.locate world.files.home) mode
            (if destination.locate world.files.home = request.archive.locate world.files.home
              then .empty else content) after.files ∧
          destination.hasTrailingSlash = false ∧ ∃ directory name, world.files.Anchored destination directory name)
      fun _ after => Copying request destination world.files after.files ∧
        after.registry = world.registry.add destination) (do
        register destination
        let _ ← attemptAs (.retaining request.archive) (copy request.archive destination)
        return [destination] : Attempt StepError (List Path)).run world := by
  refine ⟨ready _ _, fun _ noted replies => ?_⟩
  cases (orderly _ _ _ _ replies).register
  refine ⟨ready _ _, fun answer after replies => ?_⟩
  have replies := orderly _ _ _ _ replies
  have silent : (Host.Request.copy request.archive destination).Silent := trivial
  have noted := replies.registry silent
  have still : ({ world with registry := world.registry.add destination } : World).files.Plain := plain
  rcases replies.copy still with ⟨count, mode, content, rfl, found, replaces, anchored⟩ | ⟨error, rfl, copying⟩
  · exact ⟨rfl, noted, mode, content, found, replaces, anchored⟩
  · exact ⟨copying, noted⟩

theorem safe_retainArchive {certain : Prop} (plain : world.files.Plain)
    (discerns : request.SourceAt world.files destination → certain) :
    (steady certain).Safe (Ends (fun noted after => Retains request destination world noted after)
      fun _ after => ¬ request.SourceAt world.files destination ∧
        Copying request destination world.files after.files ∧
        after.registry = world.registry.add destination) (retainArchive request destination).run world := by
  unfold retainArchive
  refine Safe.andThen (Safe.lift safe_sourceIdentity_steady) fun source now ⟨here, known⟩ => ?_
  subst here
  refine Safe.andThen (Safe.lift (safe_isSource_steady known discerns)) fun isArchive here ⟨same, recognized⟩ => ?_
  subst same
  split
  next yes => exact .already (recognized.mp yes)
  next no =>
    have apart : ¬ request.SourceAt here.files destination := fun source => no (recognized.mpr source)
    refine (safe_copy_noted orderly_steady (fun _ _ => trivial) plain).weaken fun _ _ ended =>
      ended.imp ?_ fun _ _ => .intro apart
    rintro _ _ ⟨rfl, noted, mode, content, found, replaces, anchored⟩
    exact .copied apart found replaces anchored noted

theorem safe_retainArchive_orderly {rules : Rules World} (orderly : rules.Orderly)
    (ready : ∀ wanted now, rules.permits wanted now) (plain : world.files.Plain) :
    rules.Safe (Ends
      (fun _ after => request.SourceAt world.files destination ∧ after.files = world.files ∨ ∃ mode content,
        world.files.status true request.archive = .ok (request.archive.locate world.files.home, .file mode content) ∧
          world.files.Replaces (destination.locate world.files.home) mode
            (if destination.locate world.files.home = request.archive.locate world.files.home
              then .empty else content) after.files)
      fun _ after => Copying request destination world.files after.files)
      (retainArchive request destination).run world := by
  unfold retainArchive
  refine Safe.andThen (Safe.lift (safe_sourceIdentity orderly fun wanted => ready wanted world))
    fun source now ⟨here, known⟩ => ?_
  subst here
  refine Safe.andThen (Safe.lift (safe_isSource orderly (fun wanted => ready wanted now) known))
    fun isArchive here ⟨same, found⟩ => ?_
  subst same
  cases isArchive with
  | true => exact .inl ⟨found rfl, rfl⟩
  | false =>
    refine (safe_copy_noted orderly ready plain).weaken fun _ _ ended => ended.imp ?_ fun _ _ => And.left
    rintro _ _ ⟨-, -, mode, content, legible, replaces, -⟩
    exact .inr ⟨mode, content, legible, replaces⟩

theorem apart_of_copied {mode : Nat} {content : ByteArray} {canonical : Path} (plain : files.Plain)
    (known : files.canonicalize request.archive = .ok canonical) (apart : ¬ request.SourceAt files destination)
    (found : files.status true request.archive = .ok (request.archive.locate files.home, .file mode content))
    (anchored : destination.hasTrailingSlash = false ∧ ∃ directory name, files.Anchored destination directory name) :
    destination.locate files.home ≠ request.archive.locate files.home := by
  refine fun same => apart ?_
  obtain ⟨given, checked, rfl, node, leads⟩ := (canonicalize_eq_ok plain).mp known
  obtain ⟨strict, directory, name, anchored⟩ := anchored
  have there := (status_sound plain found).2
  rw [← same] at there
  have reached : files.status true destination = .ok (_, _) := anchored.status plain there (by simp [strict])
  obtain ⟨passed, onward⟩ := (status_eq_ok plain).mp reached
  have canonical : files.canonicalize destination = .ok (absolutePath (destination.locate files.home)) := by
    refine (canonicalize_eq_ok plain).mpr ⟨Path.checkGiven_of_check passed, ?_, rfl, _, onward⟩
    rw [same]
    exact checked
  exact ⟨_, _, known, canonical, by simp [same, Path.same]⟩

theorem Copying.apart {after : FileSystem} {canonical : Path} (copying : Copying request destination files after)
    (plain : files.Plain) (known : files.canonicalize request.archive = .ok canonical)
    (unlike : after ≠ files → ¬ request.SourceAt files destination) :
    after = files ∨ destination.locate files.home ≠ request.archive.locate files.home := by
  by_cases same : after = files
  · exact .inl same
  · obtain ⟨⟨mode, content, found⟩, writes⟩ := copying.resolve_left same
    exact .inr (apart_of_copied plain known (unlike same) found ⟨writes.strict, writes.anchored⟩)

theorem Retains.copying {noted : List Path} {after : World} (retains : Retains request destination world noted after) :
    Copying request destination world.files after.files ∧
      (after.files ≠ world.files → ¬ request.SourceAt world.files destination) := by
  cases retains with
  | already => exact ⟨.inl rfl, fun changed => absurd rfl changed⟩
  | copied unlike found replaces anchored =>
    exact ⟨.inr ⟨⟨_, _, found⟩, ⟨_, _, replaces⟩, anchored.1, anchored.2⟩, fun _ => unlike⟩

end WheelInstaller.Install
