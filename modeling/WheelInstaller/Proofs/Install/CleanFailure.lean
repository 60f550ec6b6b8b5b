import WheelInstaller.CommandLine.Run
import WheelInstaller.Proofs.Install.Untouched
import WheelInstaller.Proofs.Registry

/-! Cleaning up after a failure. Whatever an installation adds is at or below paths that it has noted by then, so
removing these leaves everything as it was. -/

namespace WheelInstaller

namespace Install

open Host Host.Rules FileSystem Registry

variable {request : Request} {opened : Opened} {world now after : World} {noted : List Path}
    {names : List String} {name : String}
variable {certain : Prop}

/-- Installs a wheel, and removes what was noted if that fails. -/
def runCleanly (request : Request) : Attempt InstallError Summary :=
  attempt do
    match ← run request with
    | .ok summary => return .ok summary
    | .error error =>
      let _ ← cleanUp
      return .error error

/-- Removing what is noted leaves files as they were before. -/
def Restorable (before : FileSystem) (now : World) : Prop :=
  let cleaned := (now.registry.cleanUp now.files).2
  cleaned.home = before.home ∧ ∀ location, cleaned.get? location = before.get? location

/-- The target is ready to be filled, and what was made of it is noted. -/
structure Ready (request : Request) (before : FileSystem) (noted : List Path) (now : World) : Prop where
  target : ∀ path ∈ noted, path = request.directory
  registry : now.registry = ⟨noted⟩
  owed : Owed before noted now.files
  there : now.files.isDirectory request.directory = true
  vacant : request.Vacant now.files

theorem Failed.restorable (failed : Failed request world after) (fresh : world.registry = {})
    (near : world.files.exists? request.directory = false → world.files.Near request.directory) :
    Restorable world.files after := by
  obtain ⟨registry, changed⟩ := failed
  have same : after.files = world.files := by
    rcases changed with same | ⟨absent, error, done⟩
    · exact same
    · exact makeDirectories_unmade (near absent) done
  unfold Restorable
  rw [registry, fresh, same]
  exact ⟨rfl, fun _ => rfl⟩

theorem Entered.ready (entered : Entered request world noted after) (plain : world.files.Plain)
    (fresh : world.registry = {}) (told : request.directory.components ≠ [])
    (near : world.files.exists? request.directory = false → world.files.Near request.directory) :
    Ready request world.files noted after := by
  have fit : request.Fit world.files := by
    by_cases there : world.files.exists? request.directory = true
    · exact .inl there
    · exact .inr (.inr (near (by simpa using there)))
  obtain ⟨-, there, vacant⟩ := entered.roomy plain told fit
  cases entered with
  | already => exact ⟨by simp, fresh, ⟨plain, rfl, by simp, fun _ => .inl rfl⟩, there, vacant⟩
  | made absent done registry =>
    obtain ⟨free, anchored, get?⟩ := makeDirectories_near plain absent told (near absent) done
    have grows := (makeDirectories_run plain done).1
    obtain ⟨directory, name, anchor⟩ := anchored
    refine ⟨by simp, by simp [registry, fresh, Registry.add], ⟨grows.plain, grows.home, ?_,
      fun location => ?_⟩, there, vacant⟩
    · simpa using ⟨anchor.locate_ne_nil, free⟩
    · rw [get?]
      split
      next here =>
        refine .inr ⟨request.directory, by simp, ⟨⟨directory, name, anchor⟩,
          fun _ mode content file => ?_⟩, here ▸ List.prefix_refl _⟩
        rw [get?, if_pos rfl] at file
        cases file
      next => exact .inl rfl

/-! ### What is owed while the target is filled -/

/-- What is new in the target is at or below what was noted of it. -/
structure Owing (request : Request) (noted : List Path) (prepared : FileSystem) (names : List String)
    (now : World) : Prop where
  proper : ∀ name ∈ names, ProperName name
  registry : now.registry = ⟨noted ++ names.map (request.directory / ·)⟩
  owed : Owed prepared (names.map (request.directory / ·)) now.files

namespace Owing

variable {prepared : World} (owing : Owing request noted prepared.files names now)
include owing

theorem restorable {before : FileSystem} (ready : Ready request before noted prepared) : Restorable before now := by
  unfold Restorable
  rw [owing.registry]
  exact cleanUp_restores ready.owed owing.owed

theorem note {before : FileSystem} (ready : Ready request before noted prepared) (proper : ProperName name)
    (other : name ∉ names)
    (free : prepared.files.get? (request.directory.locate prepared.files.home ++ [name]) = none) :
    Owing request noted prepared.files (names ++ [name])
    { now with registry := now.registry.add (request.directory / name) } := by
  have apart : now.registry.paths.any (·.same (request.directory / name)) = false := by
    rw [owing.registry, List.any_eq_false]
    intro path member
    simp only [Path.same, decide_eq_true_eq, Path.components_div proper]
    rcases List.mem_append.mp member with target | child
    · rw [ready.target path target]
      exact fun same => by simpa using congrArg List.length same
    · obtain ⟨sibling, listed, rfl⟩ := List.mem_map.mp child
      rw [Path.components_div (owing.proper sibling listed)]
      intro same
      cases List.append_cancel_left same
      exact other listed
  refine ⟨?_, ?_, owing.owed.plain, owing.owed.home, ?_, fun location => ?_⟩
  · simpa [or_imp, forall_and] using ⟨owing.proper, proper⟩
  · dsimp only
    rw [Registry.add, apart, if_neg (by simp), owing.registry]
    simp
  · intro path member
    rw [List.map_append] at member
    rcases List.mem_append.mp member with earlier | here
    · exact owing.owed.fresh path earlier
    · cases List.mem_singleton.mp here
      rw [Path.locate_div proper]
      exact ⟨by simp, free⟩
  · refine (owing.owed.get? location).imp_right ?_
    rintro ⟨path, member, found⟩
    exact ⟨path, by simp [List.mem_map.mp member], found⟩

theorem further (there : prepared.files.isDirectory request.directory = true) (plain : prepared.files.Plain)
    (still : after.files.Plain) (home : after.files.home = now.files.home) (registry : after.registry = now.registry)
    (get? : ∀ location, after.files.get? location = now.files.get? location ∨
      ∃ name ∈ names, (∃ directory last, prepared.files.Anchored (request.directory / name) directory last) ∧
        request.directory.locate prepared.files.home ++ [name] <+: location) :
    Owing request noted prepared.files names after := by
  have filled := Path.filled_of_check (leads_of_isDirectory plain there).1
  refine ⟨owing.proper, registry.trans owing.registry, still, home.trans owing.owed.home,
    owing.owed.fresh, fun location => ?_⟩
  rcases get? location with same | ⟨name, member, anchored, below⟩
  · refine (owing.owed.get? location).imp same.trans ?_
    rintro ⟨path, member, removable, below⟩
    obtain ⟨name, listed, rfl⟩ := List.mem_map.mp member
    refine ⟨_, member, ⟨removable.anchored, fun slash => ?_⟩, below⟩
    cases (Path.hasTrailingSlash_div filled (owing.proper name listed)).symm.trans slash
  · have proper := owing.proper name member
    rw [← Path.locate_div proper] at below
    refine .inr ⟨_, List.mem_map_of_mem member, ⟨anchored, fun slash => ?_⟩, below⟩
    cases (Path.hasTrailingSlash_div filled proper).symm.trans slash

end Owing

/-! ### The stages -/

/-- The target is filled so far, and the packages have their directory. -/
structure Stocked (request : Request) (noted : List Path) (prepared : FileSystem) (names : List String)
    (now : World) : Prop where
  owing : Owing request noted prepared names now
  anchored : ∃ directory last, prepared.Anchored request.sitePackages directory last

theorem Request.SourceAt.persists {before after : FileSystem} {path : Path} (source : request.SourceAt before path)
    (plain : before.Plain) (still : after.Plain) (home : after.home = before.home) (persists : Persists before after) :
    request.SourceAt after path := by
  obtain ⟨canonical, found, known, also, same⟩ := source
  exact ⟨canonical, found, canonicalize_persists plain still home persists known,
    canonicalize_persists plain still home persists also, same⟩

section Filling

variable {before : FileSystem} {prepared : World} (ready : Ready request before noted prepared)
include ready

theorem Owing.unchanged (owing : Owing request noted prepared.files names now) (files : after.files = now.files)
    (registry : after.registry = now.registry) : Owing request noted prepared.files names after :=
  owing.further ready.there ready.owed.plain (files ▸ owing.owed.plain) (by rw [files]) registry
    fun _ => .inl (by rw [files])

theorem Owing.written (owing : Owing request noted prepared.files names now) (member : name ∈ names)
    (writes : now.files.Writes (request.directory / name) after.files) (registry : after.registry = now.registry) :
    Owing request noted prepared.files names after := by
  have proper := owing.proper name member
  obtain ⟨directory, last, anchored⟩ := writes.anchored
  have filled := Path.filled_of_check (leads_of_isDirectory ready.owed.plain ready.there).1
  have short : name.utf8ByteSize ≤ Path.longestName := by
    have same := anchored.last
    rw [Path.steps_div filled proper, List.getLast?_concat] at same
    exact Option.some.inj same ▸ anchored.named.short
  refine owing.further ready.there ready.owed.plain writes.plain writes.home registry fun location => ?_
  by_cases here : location = (request.directory / name).locate now.files.home
  · refine .inr ⟨name, member, ⟨_, _, anchored_div ready.owed.plain ready.there proper anchored.check short⟩, ?_⟩
    refine ⟨[], ?_⟩
    rw [here, owing.owed.home, Path.locate_div proper, List.append_nil]
  · exact .inl (writes.other here)

theorem safe_normalize_stocked (stocked : Stocked request noted prepared.files ("site-packages" :: names) now) :
    host.Safe (Ends (fun _ after => Stocked request noted prepared.files ("site-packages" :: names) after)
      fun _ after => Restorable before after) (Packages.normalize request.sitePackages request.implicit).run now := by
  obtain ⟨owing, anchored⟩ := stocked
  have further (after : World) (registry : after.registry = now.registry)
      (changes : Changes (fun _ => False) (request.Initializes now.files.home) now.files after.files) :
      Stocked request noted prepared.files ("site-packages" :: names) after := by
    refine ⟨owing.further ready.there ready.owed.plain changes.plain changes.home registry fun location => ?_, anchored⟩
    rcases changes.get? location with same | ⟨makes, -⟩ | ⟨initializes, -⟩
    · exact .inl same
    · exact makes.elim
    · obtain ⟨inner, -, rfl⟩ := initializes.place
      rw [owing.owed.home]
      exact .inr ⟨"site-packages", by simp, anchored, inner, by simp⟩
  exact (orderly_host.safe_of_silent owing.owed.plain Packages.tries_normalize (fun _ => confined_of_initializing)
    (fun _ => silent_of_initializing) fun _ _ => trivial).weaken fun _ _ ended =>
      ended.imp (fun _ _ done => further _ done.2.2 done.2.1) fun _ _ done =>
        (further _ done.2 done.1).owing.restorable ready

variable (known : opened.Known request)
include known

theorem stocked_of_made {made : FileSystem} (owing : Owing request noted prepared.files ["site-packages"] now)
    (same : now.files = prepared.files) (ran : (makeDirectory request.sitePackages).run prepared.files = (.ok (), made))
    (changes : Changes (opened.Makes request made.home) (opened.Stores made.home) made after.files)
    (registry : after.registry = now.registry) : Stocked request noted prepared.files ["site-packages"] after := by
  have plain := ready.owed.plain
  obtain ⟨-, anchored, get?⟩ := anchored_of_makeDirectory plain ran
  have home := (makeDirectory_ok plain ran).1.home
  refine ⟨owing.further ready.there plain changes.plain (by rw [changes.home, home, same]) registry
    fun location => ?_, anchored⟩
  by_cases below : request.directory.locate prepared.files.home ++ ["site-packages"] <+: location
  · exact .inr ⟨"site-packages", by simp, anchored, below⟩
  have still : made.get? location = prepared.files.get? location := by
    rw [get?, if_neg]
    rintro rfl
    exact below (locate_sitePackages ▸ List.prefix_refl _)
  rw [same]
  rcases changes.get? location with unchanged | ⟨makes, none, -⟩ | ⟨stores, -⟩
  · exact .inl (unchanged.trans still)
  · rw [home] at makes
    rcases makes.split known with passes | beyond
    · rw [still, get?_of_passes plain ready.there passes] at none
      cases none
    · exact absurd (locate_sitePackages ▸ beyond) below
  · obtain ⟨names, -, rfl⟩ := stores.place known
    rw [home] at below
    exact absurd ⟨names, by simp⟩ below

theorem safe_extract_stocked (owing : Owing request noted prepared.files ["site-packages"] now)
    (same : now.files = prepared.files) :
    host.Safe (Ends (fun _ after => Stocked request noted prepared.files ["site-packages"] after) fun _ after =>
      Restorable before after)
      (extract opened.wheel opened.plan request.sitePackages request.jobs).run now := by
  have plain := ready.owed.plain
  have retained : ∃ path, request.retainedPath = .ok path := ⟨_, known.retained⟩
  have vacant : prepared.files.get? (request.directory.locate prepared.files.home ++ ["site-packages"]) = none :=
    ready.vacant.free plain retained archiveName_ne_sitePackages
  have short : ("site-packages").utf8ByteSize ≤ Path.longestName := by decide
  unfold extract
  refine ⟨trivial, fun answer made replies => ?_⟩
  have silent : (Host.Request.createDirectories request.sitePackages).Silent := trivial
  have registry := replies.registry silent
  rcases replies.createDirectories_run with ⟨rfl, done⟩ | ⟨refused, rfl, failed⟩
  · rw [same] at done
    rcases makeDirectories_div plain ready.there properName_sitePackages short vacant done
      with ⟨-, ran⟩ | ⟨⟨error, failed⟩, -⟩
    · have still := (makeDirectory_ok plain ran).1.plain
      have stocked {after : World}
        (changes : Changes (opened.Makes request made.files.home) (opened.Stores made.files.home)
          made.files after.files) (noted : after.registry = made.registry) :=
        stocked_of_made ready known owing same ran changes (noted.trans registry)
      exact (orderly_host.safe_of_silent still tries_carryOut (fun _ => confined_of_extracting)
        (fun _ => silent_of_extracting)
        fun _ _ => trivial).weaken fun _ _ ended => ended.imp (fun _ _ done => stocked done.2.1 done.2.2)
          fun _ _ done => (stocked done.1 done.2).owing.restorable ready
    · cases failed
  · refine (owing.unchanged ready ?_ registry).restorable ready
    rcases failed with still | ⟨error, done⟩
    · exact still
    · rw [same] at done ⊢
      rcases makeDirectories_div plain ready.there properName_sitePackages short vacant done
        with ⟨worked, -⟩ | ⟨-, still⟩
      · cases worked
      · exact still

theorem safe_retainArchive_stocked (stocked : Stocked request noted prepared.files ["site-packages"] now)
    (sure : request.ArchiveInside prepared.files.home → certain) :
    (steady certain).Safe (Ends
      (fun _ after => ∃ names, Stocked request noted prepared.files ("site-packages" :: names) after ∧
        s!"{Summary.fileName}.tmp" ∉ names)
      fun _ after => Restorable before after) (retainArchive request opened.retained).run now := by
  obtain ⟨given, archived, proper, path⟩ := retainedPath_eq_ok known.retained
  obtain ⟨owing, anchored⟩ := stocked
  -- Unless the archive is there, its name is noted, and nothing was there before.
  have noting (apart : ¬ request.SourceAt now.files opened.retained) :
      Owing request noted prepared.files ["site-packages", given]
      { now with registry := now.registry.add opened.retained } := by
    rw [path]
    refine owing.note ready proper (by simpa using (archiveName_apart archived).1) ?_
    refine (ready.vacant given []).resolve_right fun source => apart ?_
    rw [path]
    exact source.persists ready.owed.plain owing.owed.plain owing.owed.home fun _ node found =>
      ⟨node, owing.owed.kept found, id⟩
  have discerns (source : request.SourceAt now.files opened.retained) : certain :=
    sure (owing.owed.home ▸ known.archiveInside owing.owed.plain source)
  refine (safe_retainArchive owing.owed.plain discerns).weaken fun _ _ ended =>
    ended.imp (fun _ _ retains => ?_) fun _ _ failed => ?_
  · cases retains with
    | already => exact ⟨[], ⟨owing, anchored⟩, by simp⟩
    | copied apart found replaces destination registry =>
      have writes : now.files.Writes opened.retained _ := ⟨⟨_, _, replaces⟩, destination.1, destination.2⟩
      rw [path] at writes
      refine ⟨[given], ⟨(noting apart).written ready (by simp) writes registry, anchored⟩, ?_⟩
      simpa using (archiveName_apart archived).2.2.symm
  · obtain ⟨apart, same | ⟨-, writes⟩, registry⟩ := failed
    · exact ((noting apart).unchanged ready same registry).restorable ready
    · rw [path] at writes
      exact ((noting apart).written ready (by simp) writes registry).restorable ready

theorem safe_fillTarget_stocked (sure : request.ArchiveInside prepared.files.home → certain) :
    (steady certain).Safe (Ends
      (fun _ after => ∃ names, Stocked request noted prepared.files ("site-packages" :: names) after ∧
        s!"{Summary.fileName}.tmp" ∉ names)
      fun _ after => Restorable before after) (fillTarget request opened).run prepared := by
  let stocked (now : World) : Prop :=
    ∃ names, Stocked request noted prepared.files ("site-packages" :: names) now ∧ s!"{Summary.fileName}.tmp" ∉ names
  have empty : Owing request noted prepared.files [] prepared :=
    ⟨by simp, by simp [ready.registry], ready.owed.plain, rfl, by simp, fun _ => .inl rfl⟩
  have retained : ∃ path, request.retainedPath = .ok path := ⟨_, known.retained⟩
  have free : prepared.files.get? (request.directory.locate prepared.files.home ++ ["site-packages"]) = none :=
    ready.vacant.free ready.owed.plain retained archiveName_ne_sitePackages
  have orderly : (steady certain).Orderly := orderly_steady
  have open_ (wanted : Host.Request) (now : World) : (steady certain).permits wanted now := trivial
  refine safe_fillTarget orderly open_ (· = prepared) (fun now => now.files = prepared.files ∧
    Owing request noted prepared.files ["site-packages"] now)
    (Stocked request noted prepared.files ["site-packages"]) (fun _ => stocked) (fun _ => stocked)
      (fun _ _ => stocked) rfl ?_ ?_ ?_ ?_ ?_ ?_
  · rintro now rfl
    exact ⟨rfl, empty.note ready properName_sitePackages (by simp) free⟩
  · exact fun now ⟨same, owing⟩ => orderly.safe_of_host open_ (safe_extract_stocked ready known owing same)
  · exact fun now stocked => safe_retainArchive_stocked ready known stocked sure
  · exact fun paths now ⟨names, inside, other⟩ =>
      (orderly.safe_of_host open_ (safe_normalize_stocked ready inside)).succeeding
      fun _ _ inside => ⟨names, inside, other⟩
  · rintro paths now ⟨names, inside, other⟩
    exact safe_readSummary_keeping orderly open_ ⟨names, inside, other⟩ (inside.owing.restorable ready)
  · rintro now (rfl | inside | ⟨paths, ⟨names, inside, -⟩ | ⟨names, inside, -⟩⟩)
    · exact empty.restorable ready
    · exact inside.owing.restorable ready
    · exact inside.owing.restorable ready
    · exact inside.owing.restorable ready

theorem safe_finish_stocked {paths : List Path} {summary : Summary}
    (stocked : Stocked request noted prepared.files ("site-packages" :: names) now)
    (other : s!"{Summary.fileName}.tmp" ∉ names) :
    host.Safe (Ends (fun _ _ => True) fun _ after => Restorable before after)
    (finish request paths summary).run now := by
  have retained : ∃ path, request.retainedPath = .ok path := ⟨_, known.retained⟩
  have owing := stocked.owing.note ready properName_draft (List.mem_cons.not.mpr (not_or.mpr ⟨by decide, other⟩))
    (ready.vacant.free ready.owed.plain retained archiveName_ne_draft)
  refine (safe_finish stocked.owing.owed.plain).weaken fun _ _ ended =>
    ended.imp (fun _ _ _ => trivial) fun _ _ failed => ?_
  obtain ⟨registry, same | draft⟩ := failed
  · exact (owing.unchanged ready same registry).restorable ready
  · exact (owing.written ready (by simp) draft registry).restorable ready

end Filling

theorem safe_run_restorable (plain : world.files.Plain) (told : request.directory.components ≠ [])
    (sure : request.ArchiveInside world.files.home → certain) (fresh : world.registry = {})
    (spares : request.overwrite = true → world.files.exists? request.directory = false)
    (near : world.files.exists? request.directory = false → world.files.Near request.directory) :
    (steady certain).Safe (Ends (fun _ _ => True) fun _ after => Restorable world.files after)
    (run request).run world := by
  have preparing : (steady certain).Safe (Ends (fun noted now => Ready request world.files noted now)
      fun _ after => Restorable world.files after) (prepareTarget request).run world :=
    (safe_prepareTarget_entered plain sure spares).weaken fun _ _ ended =>
      ended.imp (fun _ _ entered => entered.ready plain fresh told near) fun _ _ failed => failed.restorable fresh near
  have start : Restorable world.files world := by
    unfold Restorable
    rw [fresh]
    exact ⟨rfl, fun _ => rfl⟩
  refine safe_run orderly_steady (fun _ _ => trivial) (fun _ _ _ now => ∃ noted prepared names,
    Ready request world.files noted prepared ∧
    Stocked request noted prepared.files ("site-packages" :: names) now ∧ s!"{Summary.fileName}.tmp" ∉ names) start
    (fun _ _ _ => preparing) (fun opened content noted now from_ ready => ?_)
    fun opened content paths summary now from_ ⟨noted, prepared, names, ready, stocked, other⟩ => ?_
  · have sure (inside : request.ArchiveInside now.files.home) : certain := sure (ready.owed.home ▸ inside)
    exact (safe_fillTarget_stocked ready from_.known sure).succeeding fun _ _ ⟨names, stocked, other⟩ =>
      ⟨noted, now, names, ready, stocked, other⟩
  · exact orderly_steady.safe_of_host (fun _ _ => trivial) (safe_finish_stocked ready from_.known stocked other)

theorem safe_runCleanly {before : FileSystem}
    (restorable : (steady certain).Safe (Ends (fun _ _ => True) fun _ after => Restorable before after)
      (run request).run world) :
    (steady certain).Safe (Ends (fun _ _ => True)
      fun _ after => after.files.home = before.home ∧ ∀ location, after.files.get? location = before.get? location)
      (runCleanly request).run world := by
  refine safe_bind.mpr (restorable.weaken fun outcome after ended => ?_)
  cases outcome with
  | ok => exact trivial
  | error error =>
    refine ⟨trivial, fun count cleaned replies => ?_⟩
    rcases replies.1 with (done | ⟨cancelled, -⟩) | ⟨refused, -⟩
    · obtain ⟨rfl, rfl⟩ := Prod.mk.inj done
      exact ended
    · cases cancelled
    · exact refused.elim

/-- An installation that fails and is cleaned up leaves everything as it was, if it had no more to make than its
target. -/
theorem runCleanly_restores (world : World) (plain : world.files.Plain) (told : request.directory.text ≠ "")
    (fresh : world.registry = {}) (spares : request.overwrite = false)
    (near : world.files.exists? request.directory = true ∨ world.files.Near request.directory) :
    (steady (request.ArchiveInside world.files.home)).Safe (Ends (fun _ _ => True)
      fun _ after => after.files.home = world.files.home ∧
        ∀ location, after.files.get? location = world.files.get? location)
      (runCleanly request).run world :=
  safe_runCleanly (safe_run_restorable plain (Path.components_ne_nil told) id fresh (by simp [spares])
    fun absent => near.resolve_left (by simp [absent]))

/-- An installation that fails when its directory is filled: all that it made is taken away. -/
theorem runCleanly_restores_lacking :
    firstWorld.files.Plain ∧ lackingRequest.directory.text ≠ "" ∧ firstWorld.registry = {} ∧
      lackingRequest.overwrite = false ∧ firstWorld.files.Near lackingRequest.directory ∧
      (steady (lackingRequest.ArchiveInside firstWorld.files.home)).Safe (Ends (fun _ _ => True)
        fun _ after => after.files.home = firstWorld.files.home ∧
          ∀ location, after.files.get? location = firstWorld.files.get? location)
        (runCleanly lackingRequest).run firstWorld ∧
      (steady (lackingRequest.ArchiveInside firstWorld.files.home)).Runs (run lackingRequest).run firstWorld
        (.error lackingError) failedWorld ∧ failedWorld.files ≠ firstWorld.files ∧
      (steady (lackingRequest.ArchiveInside firstWorld.files.home)).Runs (runCleanly lackingRequest).run firstWorld
        (.error lackingError) firstWorld := by
  have plain : firstWorld.files.Plain := ⟨by decide, rfl⟩
  have near : firstWorld.files.Near lackingRequest.directory := by
    intro parent found _
    have same : lackingRequest.directory.parent? = some ⟨"sub"⟩ := by decide
    cases same.symm.trans found
    decide +kernel
  have told : lackingRequest.directory.text ≠ "" := by decide
  have fails := runs_of_run (steady_perform (lackingRequest.ArchiveInside firstWorld.files.home)) run_lacking
  have cleans : World.Ended cleanUp failedWorld 3 firstWorld := by decide +kernel
  have cleaned := runs_of_run (steady_perform (lackingRequest.ArchiveInside firstWorld.files.home)) (cleans.run_eq rfl)
  -- For any request first: the program would be run otherwise.
  have whole {request : Request} {world mid after : World} {error : InstallError} {count : Nat}
    (plain : world.files.Plain)
      (told : request.directory.text ≠ "") (fresh : world.registry = {}) (spares : request.overwrite = false)
      (near : world.files.Near request.directory)
      (fails : (steady (request.ArchiveInside world.files.home)).Runs (run request).run world (.error error) mid)
      (cleaned : (steady (request.ArchiveInside world.files.home)).Runs cleanUp mid count after) :
      (steady (request.ArchiveInside world.files.home)).Safe (Ends (fun _ _ => True)
          fun _ after => after.files.home = world.files.home ∧ ∀ location,
          after.files.get? location = world.files.get? location)
          (runCleanly request).run world ∧
        (steady (request.ArchiveInside world.files.home)).Runs (runCleanly request).run world (.error error) after :=
    ⟨runCleanly_restores world plain told fresh spares (.inr near), fails.bind (cleaned.bind .done)⟩
  obtain ⟨restores, cleanly⟩ := whole plain told rfl rfl near fails cleaned
  exact ⟨plain, told, rfl, rfl, near, restores, fails, by decide +kernel, cleanly⟩

/-! ### The command line -/

theorem run_cleanOnFailure (arguments : CommandLine.InstallArguments) (limitless : arguments.timeout = none)
    (cleans : arguments.cleanOnFailure = true) :
    arguments.run = (do
      let version ← attemptAs .version (PythonVersion.resolve arguments.pythonVersion arguments.python)
      attemptAs .install (runCleanly (arguments.request version))) := by
  unfold CommandLine.InstallArguments.run CommandLine.InstallArguments.work
  rw [limitless, cleans]
  refine bind_congr fun version => ?_
  unfold attemptAs runCleanly attempt
  simp only [bind_assoc]
  refine bind_congr fun outcome => ?_
  cases outcome with
  | ok => rfl
  | error => rfl

theorem run_command_restores (arguments : CommandLine.InstallArguments) {version : String} (plain : world.files.Plain)
    (told : arguments.directory.text ≠ "") (fresh : world.registry = {}) (spares : arguments.overwrite = false)
    (near : world.files.exists? arguments.directory = true ∨ world.files.Near arguments.directory)
    (stated : arguments.pythonVersion = some version) (filled : (Text.trim version.toList).isEmpty = false)
    (limitless : arguments.timeout = none) (cleans : arguments.cleanOnFailure = true) :
    (steady ((arguments.request version).ArchiveInside world.files.home)).Safe (Ends (fun _ _ => True)
      fun _ after => after.files.home = world.files.home ∧ ∀ location, after.files.get? location =
      world.files.get? location)
      arguments.run.run world := by
  have known : PythonVersion.resolve arguments.pythonVersion arguments.python = pure version := by
    simp [PythonVersion.resolve, stated, Option.filter, filled]
  rw [run_cleanOnFailure arguments limitless cleans, known]
  have restorable : (steady ((arguments.request version).ArchiveInside world.files.home)).Safe
      (Ends (fun _ _ => True) fun _ after => Restorable world.files after)
      (run (arguments.request version)).run world :=
    safe_run_restorable plain (Path.components_ne_nil told) id fresh
      (fun overwrites => absurd (spares.symm.trans overwrites) nofun)
      fun absent => near.resolve_left fun there => absurd (absent.symm.trans there) nofun
  exact Safe.wrapped (safe_runCleanly restorable)

end Install
end WheelInstaller
