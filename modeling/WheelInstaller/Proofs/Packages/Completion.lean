import Mathlib
import WheelInstaller.Proofs.Host.Doubtful
import WheelInstaller.Proofs.Packages.Additions
import WheelInstaller.Proofs.Packages.Normalize

/-!
Giving initializers is done in one go. What is added never makes a directory a package that was none
before, so where all were given, there is nothing left to give.
-/

namespace WheelInstaller.Packages

open Host Host.Rules FileSystem

variable {world after : World} {before files later : FileSystem} {root : Path} {site : Location}
    {names target : List String}
variable {added : Location → Prop} {snapshot : Snapshot} {created : List Path}

/-! ### Refusals -/

theorem heeds_survey {seen : Survey} {children : List Path} : (survey seen children).run.Heeds := by
  induction children generalizing seen with
  | nil => trivial
  | cons child rest ih =>
    unfold survey
    split
    · exact ih
    · refine ⟨nofun, ?_⟩
      intro answer
      refine ⟨False.elim, ?_⟩
      cases answer with
      | false => exact ih
      | true => exact ih

theorem heeds_scanFrom {depth : Nat} {relative : Path} : (scanFrom root depth relative snapshot).run.Heeds := by
  induction depth generalizing relative snapshot with
  | zero => trivial
  | succ depth ih =>
    have each (remaining : List String) (snapshot : Snapshot) :
        (remaining.foldlM (fun snapshot name => scanFrom root depth (relative / name) snapshot)
          snapshot).run.Heeds := by
      induction remaining generalizing snapshot with
      | nil => trivial
      | cons name remaining others =>
        rw [List.foldlM_cons]
        exact ih.andThen others
    unfold scanFrom
    refine ⟨by simp, ?_⟩
    intro answer
    cases answer with
    | error error => exact ⟨fun _ => ⟨error, rfl⟩, trivial⟩
    | ok children =>
      refine ⟨?_, heeds_survey.andThen fun found => each _ _⟩
      rintro ⟨error, refused⟩
      cases refused

theorem heeds_writeAll {paths : List Path} : (writeAll root paths).run.Heeds := by
  induction paths with
  | nil => trivial
  | cons path rest ih =>
    unfold writeAll
    refine ⟨by simp, ?_⟩
    intro answer
    cases answer with
    | error error => exact ⟨fun _ => ⟨error, rfl⟩, trivial⟩
    | ok =>
      refine ⟨?_, ih.andThen fun _ => trivial⟩
      rintro ⟨error, refused⟩
      cases refused

theorem heeds_normalize {implicit : Bool} : (normalize root implicit).run.Heeds := by
  unfold normalize
  split
  · trivial
  · exact heeds_scanFrom.andThen fun _ => heeds_writeAll

/-! ### On the plain host -/

/-- What a scan tells of a tree. -/
structure Portrays (site : Location) (files : FileSystem) (root : Path) (snapshot : Snapshot) : Prop where
  covers : Covers site files root snapshot
  depicts : snapshot.Depicts (ToldAt site false files root) (ToldAt site true files root)
  listed : ∀ target, Seen (ToldAt site true files root) [] target → Listed files root target

theorem listable_of_sited (sited : files.Sited root site) (wellNamed : files.WellNamed) : Listable files root site := by
  constructor
  · intro names occupied
    exact wellNamed.proper occupied
  · intro names children proper listed
    exact ((sited.readDirectory_within proper).mp listed).2.2

theorem portrays_of_scan (sited : world.files.Sited root site) (wellNamed : world.files.WellNamed)
    (scanned : (scan root).run.run World.perform world = (.ok snapshot, after)) :
    after = world ∧ Portrays site world.files root snapshot := by
  have told := run_of_safe serving_perform
    (safe_scan (listable_of_sited sited wellNamed) orderly_serving fun _ _ => trivial)
  have covers := run_of_safe doubtful_perform (covers_scan sited wellNamed)
  rw [scanned] at told covers
  obtain ⟨same, -, depicts, listed⟩ := told
  exact ⟨same, covers.2, depicts, listed⟩

theorem exists_scan (sited : world.files.Sited root site) (wellNamed : world.files.WellNamed)
    (listed : ∀ target, Seen (ToldAt site true world.files root) [] target → Listed world.files root target) :
    ∃ snapshot, (scan root).run.run World.perform world = (.ok snapshot, world) ∧
    Portrays site world.files root snapshot := by
  cases scanned : (scan root).run.run World.perform world with
  | mk outcome now =>
    cases outcome with
    | ok snapshot =>
      obtain ⟨rfl, portrays⟩ := portrays_of_scan sited wellNamed scanned
      exact ⟨snapshot, rfl, portrays⟩
    | error =>
      have told := run_of_safe serving_perform
        (safe_scan (listable_of_sited sited wellNamed) orderly_serving fun _ _ => trivial)
      rw [scanned] at told
      obtain ⟨-, target, seen, error, last, refused⟩ := told
      obtain ⟨children, there⟩ := listed target seen
      have answered := (Prod.mk.inj refused).1
      rw [there] at answered
      cases answered

theorem exists_scan_of_run (ran : (normalize root false).run.run World.perform world = (.ok created, after)) :
    ∃ snapshot now, (scan root).run.run World.perform world = (.ok snapshot, now) := by
  unfold normalize at ran
  rw [if_neg Bool.false_ne_true, Program.run_andThen] at ran
  cases scanned : (scan root).run.run World.perform world with
  | mk outcome now =>
    cases outcome with
    | ok snapshot => exact ⟨snapshot, now, rfl⟩
    | error error =>
      rw [scanned] at ran
      cases ran

theorem run_normalize (scanned : (scan root).run.run World.perform world = (.ok snapshot, after)) :
    (normalize root false).run.run World.perform world = (writeAll root ((snapshot.plan? false).getD [])).run.run
    World.perform after := by
  unfold normalize
  rw [if_neg Bool.false_ne_true, Program.run_andThen, scanned]

theorem exists_site_of_scan (unlinked : world.files.Unlinked root)
    (scanned : (scan root).run.run World.perform world = (.ok snapshot, after)) :
    ∃ site, world.files.Sited root site := by
  have listed : ∃ children, world.files.readDirectory (root.within []) = .ok children := by
    by_contra unlisted
    have ended := run_of_safe doubtful_perform (files_of_unlisted (not_exists.mp unlisted))
    rwa [scanned] at ended
  obtain ⟨children, listed⟩ := listed
  obtain ⟨site, found⟩ := exists_site_of_readDirectory listed
  exact ⟨site, unlinked.sited found⟩

/-! ### The tree afterwards -/

section Added

variable (adds : Adds before added later) (sited : before.Sited root site)
include adds sited

theorem isDirectory_added (proper : ∀ name ∈ names, ProperName name) :
    later.isDirectory (root.within names) = before.isDirectory (root.within names) := by
  rw [Bool.eq_iff_iff, (adds.sited sited).isDirectory_within proper,
    sited.isDirectory_within proper, adds.get?_eq_directory]

theorem listed_added (proper : ∀ name ∈ names, ProperName name) (listed : Listed before root names) :
    Listed later root names := by
  obtain ⟨children, told⟩ := listed
  obtain ⟨taken, found, -⟩ := (sited.readDirectory_within proper).mp told
  exact ⟨_, ((adds.sited sited).readDirectory_within proper).mpr ⟨taken, adds.get?_eq_directory.mpr found, rfl⟩⟩

theorem wellNamed_added (wellNamed : before.WellNamed)
    (named : ∀ location, added location → ∃ names, (∀ name ∈ names, ProperName name) ∧ location = site ++ names) :
    later.WellNamed := by
  intro location occupied name member
  rcases adds.get?_ne_none.mp occupied with old | new
  · exact wellNamed location old name member
  · obtain ⟨names, proper, rfl⟩ := named location new
    rcases List.mem_append.mp member with above | below
    · exact wellNamed site (by rw [sited.get?_site]; exact nofun) name above
    · exact proper name below

variable (wellNamed : later.WellNamed)
include wellNamed

theorem toldAt_added {isDirectory : Bool} (some : names ≠ []) :
    ToldAt site isDirectory later root names ↔
      (before.get? (site ++ names) ≠ none ∨ added (site ++ names)) ∧
      before.isDirectory (root.under names) = isDirectory := by
  unfold ToldAt
  rw [← adds.get?_ne_none]
  refine and_congr_right fun occupied => ?_
  have proper := wellNamed.proper occupied
  rw [← Path.within_eq_under some proper, isDirectory_added adds sited proper]

theorem isDirectory_of_added (some : names ≠ []) (new : added (site ++ names)) :
    before.isDirectory (root.under names) = false := by
  have occupied : later.get? (site ++ names) ≠ none := adds.get?_ne_none.mpr (.inr new)
  have proper := wellNamed.proper occupied
  rw [← Path.within_eq_under some proper, ← Bool.not_eq_true, sited.isDirectory_within proper, adds.fresh _ new]
  exact nofun

theorem directory_added (some : names ≠ []) : ToldAt site true later root names ↔
    ToldAt site true before root names := by
  rw [toldAt_added adds sited wellNamed some]
  refine and_congr_left fun directory => ?_
  rw [or_iff_left]
  intro new
  rw [isDirectory_of_added adds sited wellNamed some new] at directory
  cases directory

theorem file_added (some : names ≠ []) :
    ToldAt site false later root names ↔ ToldAt site false before root names ∨ added (site ++ names) := by
  rw [toldAt_added adds sited wellNamed some, or_and_right]
  exact or_congr_right (and_iff_left_of_imp (isDirectory_of_added adds sited wellNamed some))

theorem completed_added {final : Snapshot} (portrays : Portrays site before root snapshot)
    (also : Portrays site later root final) (each : ∀ location, added location ↔
      ∃ target, (snapshot.Visits [] target ∧ snapshot.Lacks target) ∧
      location = site ++ (target ++ [initializerName])) :
    snapshot.Completed final (ToldAt site false before root) (ToldAt site true before root)
      (ToldAt site false later root) (ToldAt site true later root) := by
  refine ⟨portrays.depicts, also.depicts, ?_, fun names some => directory_added adds sited wellNamed some⟩
  intro names some
  rw [file_added adds sited wellNamed some, each]
  refine or_congr_right ⟨?_, ?_⟩
  · rintro ⟨target, lacks, same⟩
    exact ⟨target, List.append_cancel_left same, lacks⟩
  · rintro ⟨target, rfl, lacks⟩
    exact ⟨target, lacks, rfl⟩

theorem listed_of_added (portrays : Portrays site before root snapshot)
    (seen : Seen (ToldAt site true later root) [] target) :
    Listed later root target := by
  have proper : ∀ name ∈ target, ProperName name := by
    rcases seen.eq_or with rfl | ⟨occupied, -⟩
    · simp
    · exact wellNamed.proper occupied
  exact listed_added adds sited proper
    (portrays.listed target (seen.imp fun names some => (directory_added adds sited wellNamed some).mp))

end Added

/-! ### A second time -/

/-- All initializers that were missing are there, and a second round finds no other. -/
structure Completes (root : Path) (world : World) (created : List Path) (after : World) : Prop where
  planned : ∃ snapshot paths, (scan root).run.run World.perform world = (.ok snapshot, world) ∧
    snapshot.plan? false = some paths ∧ created = paths.map root.join
  found : ∀ path ∈ created, ∃ location, after.files.status true path = .ok (location, .file newFileMode .empty)
  adds : Adds world.files (fun location => ∃ path ∈ created, ∃ node, after.files.status true path =
    .ok (location, node)) after.files
  again : (normalize root false).run.run World.perform after = (.ok [], after)

theorem run_again (adds : Adds before added after.files) (sited : before.Sited root site)
    (wellNamed : after.files.WellNamed) (portrays : Portrays site before root snapshot)
    (each : ∀ location, added location ↔
      ∃ target, (snapshot.Visits [] target ∧ snapshot.Lacks target) ∧
      location = site ++ (target ++ [initializerName])) :
    (normalize root false).run.run World.perform after = (.ok [], after) := by
  obtain ⟨final, scanned, also⟩ := exists_scan (adds.sited sited) wellNamed fun _ =>
    listed_of_added adds sited wellNamed portrays
  have nothing := (completed_added adds sited wellNamed portrays also each).plan?_eq_nil also.covers.proper
  rw [run_normalize scanned, nothing]
  rfl

theorem completes_of_run (wellNamed : world.files.WellNamed) (unlinked : world.files.Unlinked root)
    (ran : (normalize root false).run.run World.perform world = (.ok created, after)) :
    Completes root world created after := by
  obtain ⟨snapshot, now, scanned⟩ := exists_scan_of_run ran
  obtain ⟨site, sited⟩ := exists_site_of_scan unlinked scanned
  obtain ⟨rfl, portrays⟩ := portrays_of_scan sited wellNamed scanned
  obtain ⟨targets, planned, named, exactly⟩ := Snapshot.exists_targets portrays.covers.proper
  have free : ∀ target ∈ targets, ∀ mode content, now.files.get? (site ++ (target ++ [initializerName])) ≠
    some (.file mode content) :=
    fun target member => portrays.covers.free sited wellNamed ((exactly target).mp member).2
  -- So writing them adds files, and replaces none.
  have wrote := run_of_safe doubtful_perform (safe_writeAll_adds sited named free (.refl now.files))
  rw [run_normalize scanned, planned, Option.getD_some] at ran
  rw [ran] at wrote
  obtain ⟨rfl, taken, adds⟩ := wrote
  have adds := adds.congr fun location => (false_or _).symm.to_iff
  have proper (target : List String) (member : target ∈ targets) :
    ∀ name ∈ target ++ [initializerName], ProperName name := by
    simpa [or_imp, forall_and] using ⟨named target member, properName_initializer⟩
  have filed (target : List String) (member : target ∈ targets) :
    after.files.status true (root.join (Snapshot.initializerOf target)) =
      .ok (site ++ (target ++ [initializerName]), .file newFileMode .empty) :=
    ((adds.sited sited).status_within (proper target member)).mpr
      ⟨taken target member, rfl, adds.filled _ ⟨target, member, rfl⟩⟩
  have wellNamed := wellNamed_added adds sited wellNamed fun location ⟨target, member, same⟩ =>
    ⟨_, proper target member, same⟩
  constructor
  case planned => exact ⟨snapshot, _, scanned, planned, rfl⟩
  case found => simpa using fun target member => ⟨_, filed target member⟩
  case adds =>
    refine adds.congr fun location => ⟨?_, ?_⟩
    · rintro ⟨_, member, node, reached⟩
      obtain ⟨relative, inside, rfl⟩ := List.mem_map.mp member
      obtain ⟨target, known, rfl⟩ := List.mem_map.mp inside
      rw [filed target known] at reached
      cases reached
      exact ⟨target, known, rfl⟩
    · rintro ⟨target, member, rfl⟩
      exact ⟨_, List.mem_map_of_mem (List.mem_map_of_mem member), _, filed target member⟩
  case again =>
    refine run_again adds sited wellNamed portrays fun location => ?_
    simp only [exactly]

/-- Whatever comes of giving initializers to a tree without links, only empty ones are added. If it succeeds they are
those of the plan, and giving them again adds none. -/
theorem normalize_only_adds_and_completes (wellNamed : world.files.WellNamed) (unlinked : world.files.Unlinked root) :
    doubtful.Safe (fun _ after => AddsInitializers world.files after.files) (normalize root false).run world ∧
      host.Safe (Ends (Completes root world) fun _ _ => True) (normalize root false).run world := by
  constructor
  · apply (safe_normalize_adds wellNamed unlinked).weaken
    intro outcome after ended
    cases outcome with
    | ok => exact ended
    | error => exact ended
  · apply (heeds_normalize.safe world).succeeding
    intro created after ran
    exact completes_of_run wellNamed unlinked ran

/-- The root is a link to the directory that lacks two initializers. -/
theorem normalize_only_adds_and_completes_behind_link :
    let inside : Tree :=
  .directory [("sub", .directory [("mod.py", .file 0o644 .empty)]), ("x.pyd", .file 0o644 .empty)]
    let world : World :=
      { files := { top := .directory [("site", .directory [("pkg", inside)]), ("lib", .link ⟨"site"⟩)] } }
    world.files.WellNamed ∧ world.files.Unlinked ⟨"/lib"⟩ ∧
      doubtful.Safe (fun _ after => AddsInitializers world.files after.files) (normalize ⟨"/lib"⟩ false).run world ∧
      host.Safe (Ends (Completes ⟨"/lib"⟩ world) fun _ _ => True) (normalize ⟨"/lib"⟩ false).run world := by
  intro inside world
  have site : Tree.Sound (.directory [("pkg", inside)]) := by decide
  have wellNamed : world.files.WellNamed := by
    intro location occupied
    obtain ⟨tree, found⟩ := get?_ne_none.mp occupied
    cases location with
    | nil => simp
    | cons name rest =>
      obtain ⟨child, here, found⟩ := Option.bind_eq_some_iff.mp found
      rcases List.mem_cons.mp (Tree.child?_eq_some here) with first | second
      · cases first
        exact List.forall_mem_cons.mpr ⟨by decide, (site.find? found).1⟩
      · cases List.mem_singleton.mp second
        cases rest with
        | nil => exact List.forall_mem_singleton.mpr (by decide)
        | cons => cases found
  have unlinked : world.files.Unlinked ⟨"/lib"⟩ := by
    intro place found names target linked
    have there : world.files.status true ⟨"/lib"⟩ = .ok (["site"], .directory) := by cbv
    cases there.symm.trans found
    obtain ⟨tree, found, same⟩ := get?_eq_some.mp linked
    cases (site.find? found).2 <;> cases same
  exact ⟨wellNamed, unlinked, normalize_only_adds_and_completes wellNamed unlinked⟩

/-! ### What is in the way -/

theorem Listed.of_told (sited : files.Sited root site) (wellNamed : files.WellNamed)
    (told : ToldAt site true files root names) (some : names ≠ []) :
    Listed files root names := by
  have proper := wellNamed.proper told.1
  have directory := told.2
  rw [← Path.within_eq_under some proper, sited.isDirectory_within proper] at directory
  exact ⟨_, (sited.readDirectory_within proper).mpr ⟨directory.1, directory.2, rfl⟩⟩

/-- A root without links that is a directory is listed, and so is everything that is looked into. -/
theorem exists_site_of_isDirectory (wellNamed : files.WellNamed) (unlinked : files.Unlinked root)
    (directory : files.isDirectory (root.within []) = true) :
    ∃ site, files.status true root = .ok (site, .directory) ∧ files.Sited root site ∧
      ∀ target, Seen (ToldAt site true files root) [] target → Listed files root target := by
  obtain ⟨place, found⟩ := status_of_isDirectory directory
  have listed : files.readDirectory (root.within []) = .ok (files.children place) := by
    rw [FileSystem.readDirectory, found]
    rfl
  obtain ⟨site, reached⟩ := exists_site_of_readDirectory listed
  have sited := unlinked.sited reached
  refine ⟨site, reached, sited, fun target seen => ?_⟩
  by_cases here : target = []
  · exact here ▸ ⟨_, listed⟩
  · exact .of_told sited wellNamed (seen.eq_or.resolve_left here) here

theorem exists_writeAll {targets : List (List String)} (sited : before.Sited root site)
    (named : ∀ target ∈ targets, ∀ name ∈ target, ProperName name)
    (inside : ∀ target ∈ targets, before.get? (site ++ target) = some .directory)
    (vacant : ∀ target ∈ targets, before.get? (site ++ (target ++ [initializerName])) = none)
    (taken : ∀ target ∈ targets, Taken root (target ++ [initializerName])) (adds : Adds before added world.files) :
    ∃ created after, (writeAll root (targets.map Snapshot.initializerOf)).run.run World.perform world =
    (.ok created, after) := by
  induction targets generalizing world added with
  | nil => exact ⟨[], world, rfl⟩
  | cons target rest ih =>
    have proper : ∀ name ∈ target ++ [initializerName], ProperName name := by
      simpa [or_imp, forall_and] using ⟨named target (by simp), properName_initializer⟩
    have free : before.get? (site ++ (target ++ [initializerName])) ≠ some .directory := by
      simp [vacant target (by simp)]
    obtain ⟨files, wrote⟩ := (adds.sited sited).writeFile_free proper (taken target (by simp))
      (adds.get?_eq_directory.mpr (inside target (by simp))) (mt adds.get?_eq_directory.mp free)
    have further := adds.writeFile sited proper rfl (by simp [vacant target (by simp)]) wrote
    obtain ⟨-, -, more⟩ := further.resolve_left (by rintro ⟨error, failed, -⟩; cases failed)
    obtain ⟨created, after, others⟩ := @ih { world with files } _ (fun other member => named other (by simp [member]))
      (fun other member => inside other (by simp [member])) (fun other member => vacant other (by simp [member]))
      (fun other member => taken other (by simp [member])) more
    have first : (attempt (write (root.join (Snapshot.initializerOf target)) .empty)).run.run World.perform world =
        (.ok (), { world with files }) := by
      have same : (FileSystem.writeFile (root.join (Snapshot.initializerOf target)) .empty).run
        world.files = (.ok (), files) := wrote
      change World.perform (.write (root.join (Snapshot.initializerOf target)) .empty) world = _
      rw [World.perform, World.act, same]
      rfl
    refine ⟨root.join (Snapshot.initializerOf target) :: created, after, ?_⟩
    rw [List.map_cons, writeAll, Program.run_andThen, first]
    dsimp only
    rw [Program.run_andThen, others]
    rfl

/-- What comes of giving initializers to a tree. They are planned for directories that are there, and in place of none
is a file. But a directory may be, and then it comes to nothing. -/
structure Creates (site : Location) (root : Path) (world : World) (targets : List (List String)) : Prop where
  planned : ∃ snapshot, (scan root).run.run World.perform world = (.ok snapshot, world) ∧
    snapshot.plan? false = some (targets.map Snapshot.initializerOf)
  inside : ∀ target ∈ targets, world.files.get? (site ++ target) = some .directory
  unfiled : ∀ target ∈ targets, world.files.get? (site ++ (target ++ [initializerName])) = none ∨
    world.files.get? (site ++ (target ++ [initializerName])) = some .directory
  done_iff : (∃ created after, (normalize root false).run.run World.perform world = (.ok created, after)) ↔
    ∀ target ∈ targets, world.files.get? (site ++ (target ++ [initializerName])) = none ∧
    Taken root (target ++ [initializerName])

/-- Giving initializers to a tree without links is done just where nothing is in place of those that are planned, and
the host takes their paths. -/
theorem normalize_done_iff_vacant (wellNamed : world.files.WellNamed) (unlinked : world.files.Unlinked root)
    (directory : world.files.isDirectory (root.within []) = true) :
    ∃ site targets, world.files.status true root = .ok (site, .directory) ∧ Creates site root world targets := by
  obtain ⟨site, reached, sited, listed⟩ := exists_site_of_isDirectory wellNamed unlinked directory
  obtain ⟨snapshot, scanned, portrays⟩ := exists_scan sited wellNamed listed
  obtain ⟨targets, planned, named, exactly⟩ := Snapshot.exists_targets portrays.covers.proper
  have inside : ∀ target ∈ targets, world.files.get? (site ++ target) = some .directory := by
    intro target member
    obtain ⟨visits, package, -⟩ := (exactly target).mp member
    have some : target ≠ [] := by cases package <;> assumption
    have directory := (((portrays.depicts.visits_iff (.here [])).mp visits).eq_or.resolve_left some).2
    rw [← Path.within_eq_under some (named target member), sited.isDirectory_within (named target member)] at directory
    exact directory.2
  have free : ∀ target ∈ targets, ∀ mode content, world.files.get? (site ++ (target ++ [initializerName])) ≠
    some (.file mode content) :=
    fun target member => portrays.covers.free sited wellNamed ((exactly target).mp member).2
  refine ⟨site, targets, reached, ⟨snapshot, scanned, planned⟩, inside, ?_, ?_⟩
  · intro target member
    cases there : world.files.get? (site ++ (target ++ [initializerName])) with
    | none => exact .inl rfl
    | some node =>
      cases node with
      | directory => exact .inr rfl
      | file mode content => exact absurd there (free target member mode content)
      | link link => exact absurd there (sited.noLink _ link)
  · rw [run_normalize scanned, planned, Option.getD_some]
    constructor
    · rintro ⟨created, after, ran⟩
      have wrote := run_of_safe doubtful_perform (safe_writeAll_adds sited named free (.refl world.files))
      rw [ran] at wrote
      obtain ⟨-, taken, adds⟩ := wrote
      exact fun target member => ⟨adds.fresh _ (.inr ⟨target, member, rfl⟩), taken target member⟩
    · intro clear
      exact exists_writeAll sited named inside (fun target member => (clear target member).1)
        (fun target member => (clear target member).2)
        (.refl world.files)

/-- A directory is in place of one initializer, and nothing in place of the other. -/
theorem normalize_done_iff_vacant_obstructed :
    let obstructed : Tree := .directory [("__init__.py", .directory []), ("mod.py", .file 0o644 .empty)]
    let vacant : Tree := .directory [("x.so", .file 0o644 .empty)]
    let world : World := { files := { top := .directory [("site", .directory [("ns", obstructed), ("pkg", vacant)])] } }
    world.files.WellNamed ∧ world.files.Unlinked ⟨"/site"⟩ ∧
      world.files.isDirectory ((⟨"/site"⟩ : Path).within []) = true ∧
      ∃ site targets, world.files.status true ⟨"/site"⟩ = .ok (site, .directory) ∧
      Creates site ⟨"/site"⟩ world targets := by
  intro obstructed vacant world
  have plain : world.files.Plain := ⟨by decide, rfl⟩
  have unlinked : world.files.Unlinked ⟨"/site"⟩ := fun _ _ _ _ => plain.not_link
  have leads : world.files.Leads [] ["site"] (.occupied ["site"] .directory) :=
    .down rfl (by constructor <;> decide) nofun (.here rfl)
  have directory : world.files.isDirectory ((⟨"/site"⟩ : Path).within []) = true :=
    isDirectory_of_leads plain (Path.check_eq_ok.mpr (by decide +kernel)) leads
  exact ⟨plain.wellNamed, unlinked, directory, normalize_done_iff_vacant plain.wellNamed unlinked directory⟩

end WheelInstaller.Packages
