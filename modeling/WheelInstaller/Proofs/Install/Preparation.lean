import WheelInstaller.Proofs.FileSystem.Reach
import WheelInstaller.Proofs.Host.World
import WheelInstaller.Proofs.Install.Requests

/-! Preparing the target. Either it is made, or it loses everything but the archive; and when that starts, the
summary is the first to go. -/

namespace WheelInstaller.Install

open Host FileSystem

variable {request : Request} {rules : Rules World} {world : World}

/-- Some path leads to the archive, as canonical paths tell. -/
def Request.SourceAt (request : Request) (files : FileSystem) (path : Path) : Prop :=
  ∃ source found, files.canonicalize request.archive = .ok source ∧ files.canonicalize path = .ok found ∧
    found.same source = true

instance (files : FileSystem) (path : Path) : Decidable (request.SourceAt files path) :=
  match known : files.canonicalize request.archive, told : files.canonicalize path with
  | .ok source, .ok found => decidable_of_iff (found.same source = true) (by simp [Request.SourceAt, known, told])
  | .error _, _ => isFalse (by simp [Request.SourceAt, known])
  | .ok _, .error _ => isFalse (by simp [Request.SourceAt, told])

/-- Strictly inside the target. -/
def Request.Inside (request : Request) (home location : Location) : Prop :=
  ∃ name rest, location = request.directory.locate home ++ name :: rest

/-- The target while it is prepared. -/
inductive Underway (request : Request) (before : FileSystem) : FileSystem → Prop where
  | untouched : Underway request before before
  | made {now : FileSystem} (absent : before.exists? request.directory = false)
      (grows : before.Grows (request.directory.Passes before.home) now) : Underway request before now
  | clearing {now : FileSystem} (allowed : request.overwrite = true)
    (directory : before.isDirectory request.directory = true)
      (shrinks : Shrinks (request.Inside before.home) before now)
      (unfinished : now.get? (request.summaryPath.locate before.home) = none) : Underway request before now

/-- The target once it is prepared. -/
inductive Prepared (request : Request) (before : FileSystem) : FileSystem → Prop where
  | made {after : FileSystem} (absent : before.exists? request.directory = false)
      (grows : before.Grows (request.directory.Passes before.home) after)
      (there : request.directory.components ≠ [] → after.isDirectory request.directory = true) :
      Prepared request before after
  | cleared {after : FileSystem} (directory : before.isDirectory request.directory = true)
      (shrinks : Shrinks (request.Inside before.home) before after)
      (empty : ∀ name rest, after.get? (request.directory.locate before.home ++ name :: rest) = none ∨
        request.SourceAt before (request.directory / name) ∧
          after.get? (request.directory.locate before.home ++ name :: rest) =
            before.get? (request.directory.locate before.home ++ name :: rest))
      (unforced : request.overwrite = false → after = before) : Prepared request before after

theorem Prepared.plain {before after : FileSystem} (prepared : Prepared request before after) : after.Plain := by
  cases prepared with
  | made _ grows => exact grows.plain
  | cleared _ shrinks => exact shrinks.plain

theorem Request.SourceAt.locate {files : FileSystem} {path : Path} (source : request.SourceAt files path)
    (plain : files.Plain) : path.locate files.home = request.archive.locate files.home := by
  obtain ⟨canonical, found, known, also, same⟩ := source
  exact locate_of_same plain also known same

theorem Request.SourceAt.named {files : FileSystem} {name : String}
    (source : request.SourceAt files (request.directory / name))
    (plain : files.Plain) (proper : ProperName name) {path : Path} (retained : request.retainedPath = .ok path) :
    request.archiveName = .ok name ∧ path = request.directory / name := by
  obtain ⟨given, archived, -, rfl⟩ := retainedPath_eq_ok retained
  obtain ⟨directory, located⟩ : ∃ directory, request.archive.locate files.home = directory ++ [given] :=
    Path.locate_of_fileName? (archiveName_eq_ok archived).1
  have same := source.locate plain
  rw [Path.locate_div proper, located] at same
  obtain ⟨-, last⟩ := List.append_inj' same rfl
  cases last
  exact ⟨archived, rfl⟩

section Looking

variable (orderly : rules.Orderly)
include orderly

theorem safe_sourceIdentity (ready : ∀ wanted, rules.permits wanted world) :
    rules.Safe (fun source after => after = world ∧
      ∀ canonical, source = some canonical → world.files.canonicalize request.archive = .ok canonical)
      (sourceIdentity request) world := by
  unfold sourceIdentity
  rw [Rules.safe_bind]
  refine ⟨ready _, fun answer after replies => ?_⟩
  obtain ⟨rfl, known⟩ := (orderly _ _ _ _ replies).canonicalize
  cases answer with
  | ok canonical => exact ⟨rfl, fun other same => Option.some.inj same ▸ known canonical rfl⟩
  | error => exact ⟨rfl, nofun⟩

theorem safe_isSource {source : Option Path} {path : Path} (ready : ∀ wanted, rules.permits wanted world)
    (known : ∀ canonical, source = some canonical → world.files.canonicalize request.archive = .ok canonical) :
    rules.Safe (fun isArchive after => after = world ∧ (isArchive = true → request.SourceAt world.files path))
      (isSource source path) world := by
  unfold isSource
  cases source with
  | none => exact ⟨rfl, nofun⟩
  | some canonical =>
    dsimp only
    rw [Rules.safe_bind]
    refine ⟨ready _, fun answer after replies => ?_⟩
    obtain ⟨rfl, told⟩ := (orderly _ _ _ _ replies).canonicalize
    cases answer with
    | ok found => exact ⟨rfl, fun same => ⟨canonical, found, known canonical rfl, told found rfl, same⟩⟩
    | error => exact ⟨rfl, nofun⟩

theorem safe_withoutSource {source : Option Path} {paths : List Path} (ready : ∀ wanted, rules.permits wanted world)
    (known : ∀ canonical, source = some canonical → world.files.canonicalize request.archive = .ok canonical) :
    rules.Safe (fun kept after => after = world ∧ kept ⊆ paths ∧
      ∀ path ∈ paths, path ∈ kept ∨ request.SourceAt world.files path) (withoutSource source paths) world := by
  induction paths with
  | nil => exact ⟨rfl, List.nil_subset _, by simp⟩
  | cons path rest ih =>
    unfold withoutSource
    rw [Rules.safe_bind]
    refine (safe_isSource orderly ready known).weaken fun isArchive after told => ?_
    obtain ⟨same, found⟩ := told
    subst same
    rw [Rules.safe_bind]
    refine ih.weaken fun others after told => ?_
    obtain ⟨same, inside, spared⟩ := told
    subst same
    have further : ∀ other ∈ rest, other ∈ path :: others ∨ request.SourceAt after.files other := fun other member =>
      (spared other member).imp_left (List.mem_cons_of_mem path)
    cases isArchive with
    | true =>
      refine ⟨rfl, List.Subset.trans inside (List.subset_cons_self path rest), ?_⟩
      exact List.forall_mem_cons.mpr ⟨.inr (found rfl), spared⟩
    | false =>
      refine ⟨rfl, List.cons_subset_cons path inside, ?_⟩
      exact List.forall_mem_cons.mpr ⟨.inl (List.mem_cons_self ..), further⟩

end Looking

/-! ### Clearing -/

/-- What a listing of the target tells of the paths that do not lead to the archive. -/
structure Existing (request : Request) (files : FileSystem) (existing : List Path) : Prop where
  listed : ∀ path ∈ existing, ∃ name, ProperName name ∧ path = request.directory / name
  complete : ∀ name, files.get? (request.directory.locate files.home ++ [name]) ≠ none →
    request.directory / name ∈ existing ∨ request.SourceAt files (request.directory / name)

theorem Request.inside_of_below {request : Request} {home location : Location} {name : String}
    (proper : ProperName name)
    (lower : (request.directory / name).locate home <+: location) : request.Inside home location := by
  obtain ⟨rest, rfl⟩ := lower
  exact ⟨name, rest, by rw [Path.locate_div proper, List.append_assoc, List.singleton_append]⟩

section Clearing

variable (orderly : rules.Orderly) {gone : Location → Prop}
include orderly

theorem safe_removeAll {paths : List Path} (plain : world.files.Plain)
    (ready : ∀ wanted now, Shrinks gone world.files now.files → rules.permits wanted now)
    (removable : ∀ path ∈ paths, path.locate world.files.home ≠ [] ∧
      ∀ location, path.locate world.files.home <+: location → gone location) :
    rules.Safe (Rules.Ends
      (fun _ after => Shrinks gone world.files after.files ∧ ∀ path ∈ paths, path.Straight →
        ∀ location, path.locate world.files.home <+: location → after.files.get? location = none)
      fun _ after => Shrinks gone world.files after.files) (removeAll paths).run world := by
  induction paths generalizing world with
  | nil => exact ⟨.refl plain, by simp⟩
  | cons path rest ih =>
    obtain ⟨⟨below, under⟩, others⟩ := List.forall_mem_cons.mp removable
    -- However the path is taken away, the rest follows.
    have onward (after : World) (smaller : Shrinks (path.locate world.files.home <+: ·) world.files after.files)
        (gone' : path.Straight → world.files.Removes (path.locate world.files.home) after.files) :
        rules.Safe (Rules.Ends
          (fun _ last => Shrinks gone world.files last.files ∧ ∀ found ∈ path :: rest, found.Straight → ∀ location,
            found.locate world.files.home <+: location → last.files.get? location = none)
          fun _ last => Shrinks gone world.files last.files) (removeAll rest).run after := by
      have first := smaller.weaken under
      have removable : ∀ path ∈ rest, path.locate after.files.home ≠ [] ∧
          ∀ location, path.locate after.files.home <+: location → gone location := by
        rwa [first.home]
      refine (ih first.plain (fun wanted now more => ready wanted now (first.trans more)) removable).weaken
        fun outcome last ended => ended.imp (fun _ _ ⟨more, cleared⟩ => ⟨first.trans more, ?_⟩) fun _ _ => first.trans
      rw [first.home] at cleared
      refine List.forall_mem_cons.mpr ⟨fun straight location lower => more.absent ?_, cleared⟩
      rw [(gone' straight).get?, if_pos lower]
    unfold removeAll
    refine ⟨ready _ world (.refl plain), fun answer after replies => ?_⟩
    obtain ⟨-, rfl⟩ := (orderly _ _ _ _ replies).isDirectory
    cases answer with
    | true =>
      refine ⟨ready _ after (.refl plain), fun answer last replies => ?_⟩
      obtain ⟨smaller, removed⟩ := (orderly _ _ _ _ replies).removeDirectory plain below
      cases answer with
      | ok => exact onward last smaller (removed rfl)
      | error => exact smaller.weaken under
    | false =>
      refine ⟨ready _ after (.refl plain), fun answer last replies => ?_⟩
      rcases (orderly _ _ _ _ replies).removeFile plain with ⟨rfl, removed⟩ | ⟨error, rfl, same⟩
      · exact onward last (.of_removes removed) fun _ => removed
      · exact .of_eq plain same

theorem safe_removeOthers {before : FileSystem} {existing : List Path} (straight : request.directory.Straight)
    (allowed : request.overwrite = true) (directory : before.isDirectory request.directory = true)
    (known : Existing request before existing)
    (ready : ∀ wanted now, Underway request before now.files → rules.permits wanted now)
    (shrinks : Shrinks (request.Inside before.home) before world.files)
    (unfinished : world.files.get? (request.summaryPath.locate before.home) = none) :
    rules.Safe (Rules.Ends
      (fun _ after => Shrinks (request.Inside before.home) before after.files ∧
        ∀ path ∈ existing, ∀ location, path.locate before.home <+: location → after.files.get? location = none)
      fun _ after => Underway request before after.files)
      (removeAll (existing.filter fun path => !path.same request.summaryPath)).run world := by
  have underway (later : FileSystem) (more : Shrinks (request.Inside before.home) world.files later) :
      Underway request before later :=
    .clearing allowed directory (shrinks.trans more) (more.absent unfinished)
  refine (safe_removeAll orderly shrinks.plain
    (fun wanted later more => ready wanted later (underway _ more)) ?_).weaken
    fun outcome after ended => ended.imp (fun _ _ ⟨more, cleared⟩ => ⟨shrinks.trans more, ?_⟩) fun _ _ more =>
      underway _ more
  · intro path member
    obtain ⟨name, proper, rfl⟩ := known.listed path (List.mem_filter.mp member).1
    exact ⟨by simp [Path.locate_div proper], fun location lower => Request.inside_of_below proper (shrinks.home ▸
      lower)⟩
  · intro path member location lower
    by_cases same : path.same request.summaryPath = true
    · simp only [Path.same, decide_eq_true_eq] at same
      rw [Path.locate, same] at lower
      obtain ⟨further, rfl⟩ := lower
      apply more.absent
      cases further with
      | nil => simpa [Path.locate] using unfinished
      | cons =>
        rw [Path.locate] at unfinished
        exact get?_below (by simp [unfinished]) (by simp)
    · obtain ⟨name, proper, rfl⟩ := known.listed path member
      have kept := cleared _ (List.mem_filter.mpr ⟨member, by simpa using same⟩)
        (((Path.Extends.refl _).div proper).straight straight)
      rw [shrinks.home] at kept
      exact kept location lower

theorem safe_clearTarget {existing : List Path} (plain : world.files.Plain) (straight : request.directory.Straight)
    (allowed : request.overwrite = true) (directory : world.files.isDirectory request.directory = true)
    (known : Existing request world.files existing) (retained : ∃ path, request.retainedPath = .ok path)
    (ready : ∀ wanted now, Underway request world.files now.files → rules.permits wanted now) :
    rules.Safe (Rules.Ends
      (fun _ after => Shrinks (request.Inside world.files.home) world.files after.files ∧
        ∀ path ∈ existing, ∀ location, path.locate world.files.home <+: location → after.files.get? location = none)
      fun _ after => Underway request world.files after.files) (clearTarget request existing).run world := by
  obtain ⟨path, retained⟩ := retained
  unfold clearTarget
  split
  next =>
    refine ⟨ready _ world .untouched, fun answer after replies => ?_⟩
    rcases (orderly _ _ _ _ replies).removeFile plain with ⟨rfl, removed⟩ | ⟨error, rfl, same⟩
    · refine safe_removeOthers orderly straight allowed directory known ready ?_ ?_
      · exact (Shrinks.of_removes removed).weaken fun location => Request.inside_of_below properName_summary
      · rw [removed.get?, if_pos (List.prefix_refl _)]
    · change Underway request world.files after.files
      rw [same]
      exact .untouched
  next unlisted =>
    refine safe_removeOthers orderly straight allowed directory known ready (.refl plain) ?_
    by_contra occupied
    rw [Request.summaryPath, Path.locate_div properName_summary] at occupied
    rcases known.complete Summary.fileName occupied with listed | source
    · apply unlisted
      exact List.any_eq_true.mpr ⟨_, listed, by simp [Path.same, Request.summaryPath]⟩
    · exact (archiveName_apart (source.named plain properName_summary retained).1).2.1 rfl

end Clearing

theorem existing_of_listing {files : FileSystem} {existing : List Path} (plain : files.Plain)
    (inside : existing ⊆ (files.children (request.directory.locate files.home)).map (request.directory / ·))
    (spared : ∀ path ∈ (files.children (request.directory.locate files.home)).map (request.directory / ·),
      path ∈ existing ∨ request.SourceAt files path) : Existing request files existing := by
  constructor
  · intro path member
    obtain ⟨name, listed, rfl⟩ := List.mem_map.mp (inside member)
    exact ⟨name, plain.proper (mem_children.mp listed) name (by simp), rfl⟩
  · intro name occupied
    exact spared _ (List.mem_map.mpr ⟨name, mem_children.mpr occupied, rfl⟩)

/-- Whatever is left inside the target once the listed paths are gone leads to the archive. -/
theorem empty_of_existing {before after : FileSystem} {existing : List Path} (plain : before.Plain)
    (known : Existing request before existing) (shrinks : Shrinks (request.Inside before.home) before after)
    (cleared : ∀ path ∈ existing, ∀ location, path.locate before.home <+: location → after.get? location = none)
    (name : String) (rest : Location) :
    after.get? (request.directory.locate before.home ++ name :: rest) = none ∨
      request.SourceAt before (request.directory / name) ∧
        after.get? (request.directory.locate before.home ++ name :: rest) =
          before.get? (request.directory.locate before.home ++ name :: rest) := by
  have split : request.directory.locate before.home ++ name :: rest =
      request.directory.locate before.home ++ [name] ++ rest := by simp
  rcases shrinks.get? (request.directory.locate before.home ++ name :: rest) with same | ⟨-, lost⟩
  · by_cases occupied : before.get? (request.directory.locate before.home ++ [name]) = none
    · left
      rw [same, split]
      cases rest with
      | nil => simpa using occupied
      | cons => exact get?_below (by simp [occupied]) (by simp)
    · have proper := plain.proper occupied name (by simp)
      rcases known.complete name occupied with listed | source
      · left
        apply cleared _ listed
        rw [Path.locate_div proper, split]
        exact List.prefix_append _ _
      · exact .inr ⟨source, same⟩
  · exact .inl lost

/-- However preparing the target ends, it went this way; and it does not count as a step. -/
theorem safe_prepareTarget (orderly : rules.Orderly) (plain : world.files.Plain)
    (straight : request.overwrite = true → request.directory.Straight)
    (retained : ∃ path, request.retainedPath = .ok path)
    (ready : ∀ wanted now, Underway request world.files now.files → rules.permits wanted now) :
    rules.Safe (Rules.Ends (fun _ after => Prepared request world.files after.files)
      fun error after => Underway request world.files after.files ∧ error.Early)
      (prepareTarget request).run world := by
  unfold prepareTarget
  refine ⟨ready _ world .untouched, fun answer after replies => ?_⟩
  obtain ⟨there, rfl⟩ := (orderly _ _ _ _ replies).exists
  cases answer with
  | false =>
    refine ⟨ready _ after .untouched, fun answer made replies => ?_⟩
    obtain ⟨grows, ends⟩ := (orderly _ _ _ _ replies).createDirectories plain
    have underway : Underway request after.files made.files := .made there.symm grows
    cases answer with
    | error => exact ⟨underway, rfl⟩
    | ok =>
      refine ⟨ready _ made underway, fun answer noted replies => ?_⟩
      have looks : (Host.Request.register request.directory).Looks := trivial
      have same := World.files_of_looks looks (orderly _ _ _ _ replies)
      change Prepared request after.files noted.files
      rw [same]
      exact .made there.symm grows (ends rfl)
  | true =>
    refine ⟨ready _ after .untouched, fun answer seen replies => ?_⟩
    obtain ⟨directory, rfl⟩ := (orderly _ _ _ _ replies).isDirectory
    cases answer with
    | false => exact ⟨.untouched, rfl⟩
    | true =>
      refine Rules.Safe.andThen
        (Rules.Safe.lift (safe_sourceIdentity orderly fun wanted => ready wanted seen .untouched))
        fun source same ⟨here, known⟩ => ?_
      subst here
      refine ⟨ready _ same .untouched, fun answer listed replies => ?_⟩
      obtain ⟨rfl, told⟩ := (orderly _ _ _ _ replies).readDirectory plain
      cases answer with
      | error => exact ⟨.untouched, rfl⟩
      | ok children =>
        obtain ⟨-, rfl⟩ := told children rfl
        refine Rules.Safe.andThen
          (Rules.Safe.lift (safe_withoutSource orderly (fun wanted => ready wanted listed .untouched) known))
          fun existing same ⟨here, inside, spared⟩ => ?_
        subst here
        have known := existing_of_listing plain inside spared
        -- With nothing but the archive in it, the target is left as it was, whatever the request allows.
        have kept (none : existing = []) : Prepared request same.files same.files :=
          .cleared directory.symm (.refl plain)
          (empty_of_existing plain known (.refl plain) (by simp [none])) fun _ => rfl
        split
        next none => exact kept (List.isEmpty_iff.mp none)
        next =>
          split
          next => exact ⟨.untouched, rfl⟩
          next allowed =>
            have allowed : request.overwrite = true := by simpa using allowed
            have clearing :=
              safe_clearTarget orderly plain (straight allowed) allowed directory.symm known retained ready
            refine Rules.Safe.andThen (Rules.Safe.wrapped (clearing.weaken fun outcome after ended => ended.imp
              (fun _ _ => id) fun _ _ underway => ⟨underway, rfl⟩)) fun _ after ⟨shrinks, cleared⟩ => ?_
            exact .cleared directory.symm shrinks (empty_of_existing plain known shrinks cleared) (by simp [allowed])

end WheelInstaller.Install
