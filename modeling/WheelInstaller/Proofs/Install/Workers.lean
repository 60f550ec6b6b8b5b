import WheelInstaller.Proofs.Install.Containment
import WheelInstaller.Proofs.Install.Halting
import WheelInstaller.Proofs.Install.Interleaving
import WheelInstaller.Proofs.Install.SourceKept
import WheelInstaller.Proofs.Install.SummaryLast

/-! Installations whose files are extracted by workers that take turns. Whatever files each of them gets, and in
whatever order they act, an installation that succeeds is complete, and one that fails stops in a step as it does with
a single worker. -/

namespace WheelInstaller.Install

open Host Host.Rules FileSystem Wheel

variable {request : Request} {opened : Opened} {world begun after : World}
    {outcome : Except StepError Nat} {total : Nat}
variable {mode : Nat} {file : ByteArray}

/-! ### What is extracted -/

theorem tries_prepare {handle : Path → OpenFile → Prop} {root : Path} {plan : Plan} :
    Tries handle (Extracting handle root plan) (fun _ => True) (prepare plan root) := by
  unfold prepare
  exact Tries.next (Tries.wrapped (Tries.asked (Asks.request (.inl rfl) fun _ _ _ _ => trivial))) fun _ =>
    tries_makeDirectories (List.Subset.refl _)

theorem asks_worker {handle : Path → OpenFile → Prop} {archive root : Path} {plan : Plan} {share : List (Entry × Path)}
    (inside : share ⊆ plan.files) : Asks handle (Extracting handle root plan) (fun _ => True)
    (worker archive share) := by
  have looks : Extracting handle root plan (.readFile archive) := reads_extracting (by trivial)
  exact ⟨looks, fun _ _ _ => Safe.weaken (tries_extractFiles inside) fun _ _ _ => trivial⟩

/-- Whoever writes what, and whether all is written or not, only planned files and the directories above them are
touched. -/
theorem Extracts.changes (extracts : Extracts opened.wheel opened.plan request.sitePackages world outcome after)
    (plain : world.files.Plain) :
    Changes (opened.Makes request world.files.home) (opened.Stores world.files.home) world.files after.files := by
  let changed (now : World) : Prop :=
    Changes (opened.Makes request world.files.home) (opened.Stores world.files.home) world.files now.files
  let allowed := Extracting (OpenFile.LocatedAt world.files.home) request.sitePackages opened.plan
  have preparing : serving.Safe (fun _ => changed) (prepare opened.plan request.sitePackages).run world := by
    have tries : Tries (OpenFile.LocatedAt world.files.home) allowed (fun _ => True)
      (prepare opened.plan request.sitePackages) :=
      tries_prepare
    have confined := orderly_serving.safe_of_tries plain (tries.allowing fun _ => confined_of_extracting) fun _ _ _ =>
      trivial
    refine confined.weaken fun reached now ended => ?_
    cases reached with
    | ok => exact ended.2
    | error => exact ended
  have working {count : Nat} {prepared : World} {shares : Fin count → List (Entry × Path)}
      {left : Fin count → Program (Except StepError Nat)}
      (made : (prepare opened.plan request.sitePackages).run.run World.perform world = (.ok (), prepared))
      (dealt : (List.ofFn shares).flatten.Perm opened.plan.files)
      (turns : Interleaved World.perform (fun member => worker opened.wheel.path (shares member)) prepared left
        after) : changed after := by
    have asks (member : Fin count) : Asks (OpenFile.LocatedAt world.files.home) allowed (fun _ => True)
        (worker opened.wheel.path (shares member)) :=
      asks_worker fun pair held => dealt.mem_iff.mp (List.mem_flatten.mpr ⟨_, List.mem_ofFn.mpr ⟨member, rfl⟩, held⟩)
    refine turns.keeps changed asks (fun wanted now extracting changes => ?_)
      (preparing.runs (runs_of_run serving_perform made))
    obtain ⟨more, honest⟩ := World.Serves.changes changes.plain changes.home
      (confined_of_extracting extracting) (.inl rfl)
    exact ⟨honest, Changes.trans changes more⟩
  cases extracts with
  | unmade refused => exact preparing.runs (runs_of_run serving_perform refused)
  | failed made dealt turns => exact working made dealt turns
  | finished made dealt turns => exact working made dealt turns

theorem Extracted.congr {before last now : FileSystem} (extracted : Extracted request opened file before last)
    (changes : Changes (opened.Makes request before.home) (opened.Stores before.home) before now)
    (same : ∀ location, last.get? location = now.get? location) : Extracted request opened file before now := by
  have persists : Persists last now := fun location node found => ⟨node, same location ▸ found, id⟩
  have there {path : Path} (directory : last.isDirectory path = true) : now.isDirectory path = true :=
    isDirectory_persists extracted.changes.plain changes.plain
    (changes.home.trans extracted.changes.home.symm) persists directory
  exact ⟨changes, there extracted.packages, fun path planned => there (extracted.directories path planned),
    fun pair planned => same _ ▸ extracted.files pair planned, fun mode content found =>
      extracted.archived mode content (same _ ▸ found)⟩

theorem Extracts.extracted (extracts : Extracts opened.wheel opened.plan request.sitePackages world (.ok total) after)
    (known : opened.Known request) (opens : ofContent request.archive (.ok file) = .ok opened.wheel)
    (direct : request.Direct)
    (bare : Bare request world.files.home mode file world.files) (waiting : world.cancelled = false) :
    Extracted request opened file world.files after.files := by
  obtain ⟨-, source⟩ := opened_of_ofContent opens
  have absent : world.files.exists? request.sitePackages = false := by
    by_contra seen
    exact get?_of_exists? bare.plain (by simpa using seen) (by simpa using bare.free [])
  have told : request.sitePackages.components ≠ [] := by
    rw [Request.sitePackages, Path.components_div properName_sitePackages]
    simp
  have vacant := vacant_of_straight bare.plain absent told direct.straight_packages
  cases ran : (extract opened.wheel opened.plan request.sitePackages request.jobs).run.run World.perform world with
  | mk reached last =>
  obtain ⟨-, agree⟩ := extracts_agree (source ▸ known.planned) waiting vacant extracts (extracts_extract ran)
  obtain ⟨rfl, same⟩ := agree total rfl
  have extracted : Extracted request opened file world.files last.files :=
    (yields_extract_bare known opens bare).runs (runs_of_run host_perform ran)
  exact extracted.congr (extracts.changes bare.plain) same

/-- A worker changes nothing but files below the directory of the packages. -/
theorem worker_contained {handle : Path → OpenFile → Prop} {share : List (Entry × Path)} (known : opened.Known request)
    (inside : share ⊆ opened.plan.files) :
    Asks handle (Contained handle request.sitePackages request.sitePackages) (fun _ => True)
    (worker opened.wheel.path share) :=
  Asks.allowing (asks_worker inside) fun _ => contained_of_extracting known.faithful

/-! ### The whole -/

/-- How an installation can end whose files are extracted by workers that take turns. -/
inductive Installs (request : Request) (world : World) : Except InstallError Summary → World → Prop where
  | refused {error : InstallError} {after : World}
      (refused : (enter request).run.run World.perform world = (.error error, after)) :
      Installs request world (.error error) after
  | stopped {opened : Opened} {noted : List Path} {begun after : World} {cause : StepError}
      (entered : (enter request).run.run World.perform world = (.ok (opened, noted), begun))
      (extracts : Extracts opened.wheel opened.plan request.sitePackages begun (.error cause) after) :
      Installs request world (.error (.partialFailure .extract cause)) after
  | left {opened : Opened} {noted : List Path} {begun extracted after : World} {total : Nat}
    {outcome : Except InstallError Summary}
      (entered : (enter request).run.run World.perform world = (.ok (opened, noted), begun))
      (extracts : Extracts opened.wheel opened.plan request.sitePackages begun (.ok total) extracted)
      (left : (leave request opened noted).run.run World.perform extracted = (outcome, after)) :
      Installs request world outcome after

theorem installs_run {ending : Except InstallError Summary}
    (ran : (run request).run.run World.perform world = (ending, after)) :
    Installs request world ending after := by
  rw [run_eq_enter, Program.run_andThen] at ran
  cases entering : (enter request).run.run World.perform world with
  | mk reached begun =>
  rw [entering] at ran
  cases reached with
  | error error =>
    cases ran
    exact .refused entering
  | ok result =>
    obtain ⟨opened, noted⟩ := result
    cases extracting :
      (extract opened.wheel opened.plan request.sitePackages request.jobs).run.run World.perform begun with
    | mk ended extracted =>
    dsimp only at ran
    rw [Program.run_andThen, run_inStep] at ran
    rw [extracting] at ran
    cases ended with
    | error cause =>
      cases ran
      exact .stopped entering (extracts_extract extracting)
    | ok total => exact .left entering (extracts_extract extracting) ran

theorem waiting_of_enter {noted : List Path}
    (entered : (enter request).run.run World.perform world = (.ok (opened, noted), begun)) :
    begun.cancelled = false := by
  have any {α ε : Type} (work : Attempt ε α) (now : World) :
    serving.Safe (Ends (fun _ _ => True) fun _ _ => True) work.run now :=
    (safe_any (fun _ _ => trivial) work.run now).weaken fun outcome _ _ => by cases outcome <;> trivial
  have check (now : World) :
      serving.Safe (Ends (fun _ after => after.cancelled = false) fun _ _ => True)
      (inStep .extract checkCancelled).run now := by
    refine ⟨trivial, fun cancelled after replies => ?_⟩
    cases replies
    cases waits : now.cancelled with
    | false => exact waits
    | true => trivial
  have safe : serving.Safe (Ends (fun _ after => after.cancelled = false) fun _ _ => True)
    (enter request).run world := by
    unfold enter
    refine (any _ _).andThen fun _ now _ => (any _ _).andThen fun _ now _ => (check _).andThen fun _ now waits => ?_
    refine ⟨trivial, fun _ after replies => ?_⟩
    cases replies
    exact waits
  exact safe.runs (runs_of_run serving_perform entered)

section Whole

variable {rules : Rules World} (orderly : rules.Orderly) (ready : ∀ wanted now, rules.permits wanted now)
variable (serves : ∀ wanted now, rules.replies wanted now (World.perform wanted now).1 (World.perform wanted now).2)
include orderly ready serves

/-- What each stage makes of what the one before it left, a whole installation makes, however its workers take turns. -/
theorem Installs.ends {ending : Except InstallError Summary} (prepared extracted : Opened → ByteArray → World → Prop)
    (filled : Opened → ByteArray → Summary → World → Prop) {good : Summary → World → Prop}
    {bad : InstallError → World → Prop}
    (unopened : ∀ error : InstallError, error.Early → bad error world)
    (preparing : ∀ opened content, opened.From request world.files content →
      rules.Safe (Ends (fun _ => prepared opened content) bad) (prepareTarget request).run world)
    (unextracted : ∀ opened content now cause, opened.From request world.files content → prepared opened content now →
      bad (.partialFailure .extract cause) now)
    (noting : ∀ opened content now, prepared opened content now →
      prepared opened content { now with registry := now.registry.add request.sitePackages })
    (extracting : ∀ opened content begun after ended, opened.From request world.files content →
      prepared opened content begun →
      begun.cancelled = false → Extracts opened.wheel opened.plan request.sitePackages begun ended after →
      Ends (fun _ => extracted opened content) (fun cause => bad (.partialFailure .extract cause)) ended after)
    (furnishing : ∀ opened content now, opened.From request world.files content → extracted opened content now →
      rules.Safe (Ends (fun result => filled opened content result.2) bad) (furnish request opened).run now)
    (finishing : ∀ opened content noted summary now, opened.From request world.files content →
      filled opened content summary now →
      rules.Safe (Ends good bad) (finish request noted summary).run now)
    (installs : Installs request world ending after) : Ends good bad ending after := by
  have entering : rules.Safe (Ends (fun result now => ∃ content, result.1.From request world.files content ∧
      prepared result.1 content now) bad) (enter request).run world := by
    unfold enter
    refine Safe.andThen ((safe_openWheel_orderly orderly ready).failing fun _ _ ⟨same, early⟩ =>
      same ▸ unopened _ early)
      fun opened now ⟨here, content, from_⟩ => ?_
    subst here
    refine (preparing opened content from_).andThen fun _ now holds => ?_
    let halted (step : Step) (later : World) : Prop := step = .extract ∧ prepared opened content later
    have check : rules.Safe (Ends (fun _ => prepared opened content) (Halts halted))
      (inStep .extract checkCancelled).run now :=
      safe_inStep_check orderly ready .extract holds ⟨rfl, holds⟩
    have check := check.failing fun error after (halts : Halts halted error after) => show bad error after by
      obtain ⟨_, cause, rfl, rfl, holds⟩ := halts
      exact unextracted _ _ _ cause from_ holds
    refine check.andThen fun _ now holds => ⟨ready _ _, fun _ after replies => ?_⟩
    cases (orderly _ _ _ _ replies).register
    exact ⟨content, from_, noting _ _ _ holds⟩
  cases installs with
  | refused refused => exact entering.runs (runs_of_run serves refused)
  | stopped entered extracts =>
    obtain ⟨content, from_, holds⟩ := entering.runs (runs_of_run serves entered)
    exact extracting _ _ _ _ _ from_ holds (waiting_of_enter entered) extracts
  | left entered extracts left =>
    obtain ⟨content, from_, holds⟩ := entering.runs (runs_of_run serves entered)
    have extracted := extracting _ _ _ _ _ from_ holds (waiting_of_enter entered) extracts
    refine Safe.runs ?_ (runs_of_run serves left)
    exact (furnishing _ _ _ from_ extracted).andThen fun result now filled => finishing _ _ _ _ _ from_ filled

end Whole

/-! ### What is left -/

/-- The archive was read, and the target is bare. -/
structure Begun (request : Request) (before : FileSystem) (opened : Opened) (mode : Nat) (file : ByteArray)
    (now : FileSystem) :
    Prop where
  from_ : opened.From request before file
  found : before.status true request.archive = .ok (request.archive.locate before.home, .file mode file)
  here : now.home = before.home
  bare : Bare request now.home mode file now

theorem Bare.unseen {files : FileSystem} {home : Location} (bare : Bare request home mode file files) :
    files.exists? request.summaryPath = false := by
  have here := bare.here
  subst here
  refine unseen_of_absent bare.plain ?_
  by_contra occupied
  rw [locate_summary] at occupied
  exact archiveName_ne_summary (bare.alone _ [] occupied).1

section Bare

variable {rules : Rules World} (orderly : rules.Orderly) (ready : ∀ wanted now, rules.permits wanted now)
variable (serves : ∀ wanted now, rules.replies wanted now (World.perform wanted now).1 (World.perform wanted now).2)
variable (plain : world.files.Plain) (direct : request.Direct)
include orderly ready serves plain direct

/-- What the stages after the extraction make of a bare target, a whole installation makes. -/
theorem Installs.ends_bare {ending : Except InstallError Summary}
    (filled : Opened → Nat → ByteArray → FileSystem → Summary → World → Prop)
    {good : Summary → World → Prop} {bad : InstallError → World → Prop}
    (early : ∀ error after, error.Early → bad error after)
    (stopped : ∀ opened mode file bare after cause, Begun request world.files opened mode file bare →
      Changes (opened.Makes request bare.home) (opened.Stores bare.home) bare after.files →
      bad (.partialFailure .extract cause) after)
    (furnishing : ∀ opened mode file bare now, Begun request world.files opened mode file bare →
      Extracted request opened file bare now.files →
        rules.Safe (Ends (fun result => filled opened mode file bare result.2) bad) (furnish request opened).run now)
    (finishing : ∀ opened mode file bare noted summary now, Begun request world.files opened mode file bare →
      filled opened mode file bare summary now → rules.Safe (Ends good bad) (finish request noted summary).run now)
    (installs : Installs request world ending after) : Ends good bad ending after := by
  refine installs.ends orderly ready serves
    (fun opened file now => ∃ mode, Begun request world.files opened mode file now.files)
    (fun opened file now => ∃ mode bare, Begun request world.files opened mode file bare ∧
      Extracted request opened file bare now.files)
    (fun opened file summary now => ∃ mode bare, Begun request world.files opened mode file bare ∧
      filled opened mode file bare summary now)
    (fun error => early error world) (fun opened file from_ => ?_)
      (fun opened file now cause _ ⟨mode, begun⟩ => ?_) (fun _ _ _ => id)
    (fun opened file begun after ended _ ⟨mode, bare⟩ waiting extracts => ?_)
    (fun opened file now _ ⟨mode, bare, begun, extracted⟩ => ?_)
    fun opened file noted summary now _ ⟨mode, bare, begun, filled⟩ => finishing _ _ _ _ _ _ _ begun filled
  · obtain ⟨mode, found⟩ := from_.status plain
    have retained : ∃ path, request.retainedPath = .ok path := ⟨_, from_.known.retained⟩
    refine (safe_prepareTarget orderly plain (fun _ => direct.straight) retained fun wanted later _ =>
      ready wanted later).weaken
      fun _ _ ended => ended.imp (fun _ _ prepared => ?_) fun _ _ ⟨_, told⟩ => early _ _ told
    have bare := prepared.bare plain direct retained found
    exact ⟨mode, from_, found, bare.here, by rwa [bare.here]⟩
  · exact stopped _ _ _ _ now cause begun (.refl begun.bare.plain)
  · cases ended with
    | error cause => exact stopped _ _ _ _ after cause bare (extracts.changes bare.bare.plain)
    | ok total =>
      exact ⟨mode, begun.files, bare, extracts.extracted bare.from_.known bare.from_.wheel direct bare.bare waiting⟩
  · exact (furnishing _ _ _ _ now begun extracted).succeeding fun _ _ filled => ⟨mode, bare, begun, filled⟩

end Bare

section Ways

variable {certain : Prop} {location : Location} {node : Node} {ending : Except InstallError Summary}
    {summary told : Summary} {last : World} {step : Step} {cause : StepError}
variable (plain : world.files.Plain)
include plain

section Direct

variable (direct : request.Direct)
include direct

theorem Installs.installed (installs : Installs request world (.ok summary) after) :
    ∃ wheel mode file, Installed request world.files summary after.files wheel mode file := by
  let filled (opened : Opened) (mode : Nat) (file : ByteArray) (bare : FileSystem) (summary : Summary)
    (now : World) : Prop :=
    Decoded request.archive opened.wheel.entries file ∧
      Furnished request bare.home opened.wheel.entries mode file file
        (Packaged request opened.wheel.entries file) now.files ∧
      Tells file (opened.wheel.readSummary request.pythonVersion) summary
  have ended : Ends (fun summary now => ∃ wheel mode file,
    Installed request world.files summary now.files wheel mode file)
      (fun _ _ => True) (.ok summary : Except InstallError Summary) after := by
    refine installs.ends_bare orderly_host (fun _ _ => trivial) host_perform plain direct filled (fun _ _ _ => trivial)
      (fun _ _ _ _ _ _ _ _ => trivial) (fun opened mode file bare now begun extracted => ?_)
      fun opened mode file bare noted summary now begun ⟨decoded, furnished, told⟩ => ?_
    · exact yields_furnish begun.from_.known direct.straight begun.from_.wheel begun.bare extracted
    · rw [begun.here] at furnished
      exact (yields_finish begun.from_ begun.found decoded furnished told).weaken fun _ _ installed =>
        ⟨_, _, _, installed⟩
  exact ended

/-- However the workers take turns, the same summary is told and the same is left in the target. -/
theorem Installs.agree (installs : Installs request world (.ok summary) after)
    (also : Installs request world (.ok told) last) :
    told = summary ∧ ∀ names, last.files.get? (request.directory.locate world.files.home ++ names) =
      after.files.get? (request.directory.locate world.files.home ++ names) := by
  obtain ⟨wheel, mode, file, installed⟩ := installs.installed plain direct
  obtain ⟨other, _, _, too⟩ := also.installed plain direct
  cases too.found.symm.trans installed.found
  exact installed.unique too

/-- Wherever an installation stops, the stages before that step are complete and those after it have not begun. -/
theorem Installs.halts (installs : Installs request world (.error (.partialFailure step cause)) after)
    {canonical : Path} (canonizes : world.files.canonicalize request.archive = .ok canonical) :
    Stopped request world.files (fun _ file kept => kept = file) step after.files := by
  let stopped (error : InstallError) (now : World) : Prop := ∀ step cause, error = .partialFailure step cause →
    Stopped request world.files (fun _ file kept => kept = file) step now.files
  let filled (opened : Opened) (mode : Nat) (file : ByteArray) (bare : FileSystem) (_ : Summary) (now : World) : Prop :=
    Decoded request.archive opened.wheel.entries file ∧ ∃ kept, kept = file ∧
      Furnished request bare.home opened.wheel.entries mode file kept
        (Packaged request opened.wheel.entries file) now.files
  have halts {opened : Opened} {mode : Nat} {file kept : ByteArray} {bare : FileSystem} {step : Step}
    {cause : StepError} {now : World}
      (begun : Begun request world.files opened mode file bare) (whole : kept = file)
      (halted : Halted request opened bare.home mode file kept step now.files) :
        stopped (.partialFailure step cause) now := by
    rintro _ _ ⟨⟩
    exact ⟨opened, mode, file, kept, begun.from_, begun.found, whole, begun.here ▸ halted⟩
  have ended : Ends (fun _ _ => True) stopped
    (.error (.partialFailure step cause) : Except InstallError Summary) after := by
    refine installs.ends_bare orderly_steady (fun _ _ => trivial)
      (steady_perform (request.ArchiveInside world.files.home)) plain direct
      filled ?_ (fun opened mode file bare now cause begun changes => ?_)
      (fun opened mode file bare now begun extracted => ?_)
      fun opened mode file bare noted summary now begun ⟨decoded, kept, whole, furnished⟩ => ?_
    · rintro error now early step cause rfl
      cases early
    · exact halts begun rfl (halted_extract begun.from_.known direct.straight begun.bare changes)
    · refine (safe_furnish_halts orderly_steady (fun _ _ => trivial) begun.from_.known
        begun.bare extracted (· = file) rfl
        fun later extracted => ?_).failing fun _ _ ⟨_, _, same, _, whole, halted⟩ => same ▸ halts begun whole halted
      let start : World := { files := bare }
      exact safe_retainArchive_whole begun.from_.known direct.straight plain canonizes
        (show start.files.home = world.files.home from begun.here) begun.bare extracted
    · exact (safe_finish_halts orderly_steady (fun _ _ => trivial) begun.from_.known decoded furnished).failing
        fun _ _ ⟨_, _, same, halted⟩ => same ▸ halts begun whole halted
  exact ended step cause rfl

theorem Installs.unseen (installs : Installs request world (.error (.partialFailure step cause)) after) :
    after.files.exists? request.summaryPath = false := by
  let unseen (error : InstallError) (now : World) : Prop := ∀ step cause, error = .partialFailure step cause →
    now.files.exists? request.summaryPath = false
  let filled (_ : Opened) (_ : Nat) (_ : ByteArray) (_ : FileSystem) (_ : Summary) (now : World) : Prop :=
    now.files.Plain ∧ now.files.exists? request.summaryPath = false
  have fills {opened : Opened} {mode : Nat} {file : ByteArray} {bare : FileSystem} {now : World}
      (begun : Begun request world.files opened mode file bare)
      (changes : Changes (opened.Makes request bare.home) (opened.Fills request bare) bare now.files) :
      now.files.Plain ∧ now.files.exists? request.summaryPath = false := by
    refine ⟨changes.plain, unseen_of_filled direct begun.bare.plain begun.from_.known (begun.bare.unseen)
      (changes.weaken (fun _ => id) fun location fills => ?_)⟩
    rcases fills with stores | initializes | ⟨retained, -⟩
    · exact .inl (.inl stores)
    · exact .inr initializes
    · exact .inl (.inr retained)
  have ended : Ends (fun _ _ => True) unseen
    (.error (.partialFailure step cause) : Except InstallError Summary) after := by
    refine installs.ends_bare orderly_steady (fun _ _ => trivial) (steady_perform True) plain direct
      filled ?_ (fun opened mode file bare now cause begun changes _ _ _ => ?_)
      (fun opened mode file bare now begun extracted => ?_)
      fun opened mode file bare noted summary now begun ⟨still, absent⟩ => ?_
    · rintro error now early step cause rfl
      cases early
    · exact (fills begun (changes.weaken (fun _ => id) fun _ stores => .inl stores)).2
    · exact ((safe_furnish_changes begun.from_.known begun.bare.plain (fun _ => trivial)
        (extracted.changes.weaken (fun _ => id) fun _ => .inl)).succeeding fun _ _ => fills begun).failing
        fun _ _ ⟨_, _, _, changes⟩ _ _ _ => (fills begun changes).2
    · exact (orderly_steady.safe_of_host (fun _ _ => trivial) (safe_finish still)).weaken fun _ _ ended =>
        ended.imp (fun _ _ _ => trivial) fun _ _ ⟨_, drafts⟩ _ _ _ => drafts.unseen direct still absent
  exact ended step cause rfl

end Direct

theorem Installs.keeps (told : request.directory.text ≠ "") (spares : request.overwrite = false)
    (fit : request.Fit world.files)
    (installs : Installs request world ending after) : Keeps world.files after.files := by
  have ended : Ends (fun _ now => Keeps world.files now.files)
    (fun _ now => Keeps world.files now.files) ending after := by
    refine installs.ends orderly_steady (fun _ _ => trivial) (steady_perform True)
      (fun _ _ now => Roomy request world.files now.files)
      (fun opened _ now => ∃ roomy, Roomy request world.files roomy ∧
        Changes (opened.Makes request roomy.home) (opened.Fills request roomy) roomy now.files)
      (fun opened _ _ now => Underfilled request opened world.files now.files)
      (fun _ _ => .refl plain) (fun _ _ _ => ?_) (fun opened _ now _ from_ roomy => ?_) (fun _ _ _ => id)
      (fun opened _ begun now reached from_ roomy _ extracts => ?_)
      (fun opened _ now from_ ⟨before, roomy, changes⟩ => ?_) fun opened _ noted summary now from_ underfilled => ?_
    · exact (safe_prepareTarget_entered plain (fun _ => trivial) (by simp [spares])).weaken fun _ _ ended =>
        ended.imp (fun _ _ entered => entered.roomy plain (Path.components_ne_nil told) fit) fun _ _ failed =>
          failed.keeps plain
    · exact Underfilled.keeps ⟨from_.known, now.files, roomy, .refl roomy.grows.plain⟩
    · have changes := (extracts.changes roomy.grows.plain).weaken (fun _ => id) fun _ stores =>
        (Or.inl stores : opened.Fills request begun.files _)
      cases reached with
      | error => exact Underfilled.keeps ⟨from_.known, begun.files, roomy, changes⟩
      | ok => exact ⟨begun.files, roomy, changes⟩
    · have filled {after : FileSystem}
        (changes : Changes (opened.Makes request before.home) (opened.Fills request before) before after) :
          Underfilled request opened world.files after := ⟨from_.known, before, roomy, changes⟩
      exact (safe_furnish_changes from_.known roomy.grows.plain (fun _ => trivial) changes).weaken fun _ _ ended =>
        ended.imp (fun _ _ => filled) fun _ _ ⟨_, _, _, changes⟩ => (filled changes).keeps
    · exact (orderly_steady.safe_of_host (fun _ _ => trivial) (safe_finish underfilled.keeps.plain)).weaken
        fun _ _ ended =>
        ended.imp (fun _ _ done => underfilled.keeps_of_summarizes done.2) fun _ _ done =>
          underfilled.keeps_of_drafts done.2
  cases ending <;> exact ended

/-- Over a directory that is there, the archive is kept unless it is deeper in it. -/
theorem Installs.keeps_archive (there : world.files.exists? request.directory = true)
    (shallow : request.Shallow world.files) (found : world.files.status true request.archive = .ok (location, node))
    (installs : Installs request world ending after) :
    after.files.status true request.archive = .ok (location, node) := by
  let survives (files : FileSystem) : Prop := Survives request world.files location node files
  have ended : Ends (fun _ now => survives now.files) (fun _ now => survives now.files) ending after := by
    refine installs.ends orderly_steady (fun _ _ => trivial) (steady_perform True) (fun _ _ now => survives now.files)
      (fun opened _ now => ∃ before, survives before ∧
        Changes (opened.Makes request before.home) (opened.Fills request before) before now.files)
      (fun _ _ _ now => survives now.files) (fun _ _ => ⟨plain, rfl, found⟩)
      (fun opened _ from_ => safe_prepareTarget_survives plain shallow from_.known (fun _ => trivial) there found)
      (fun _ _ _ _ _ => id) (fun _ _ _ => id) (fun opened _ begun now reached from_ kept _ extracts => ?_)
      (fun opened _ now from_ ⟨before, kept, changes⟩ => ?_)
      fun opened _ noted summary now from_ kept => safe_finish_survives shallow from_.known kept
    · have changes := (extracts.changes kept.plain).weaken (fun _ => id) fun _ stores =>
        (Or.inl stores : opened.Fills request begun.files _)
      cases reached with
      | error => exact kept.of_changes shallow plain from_.known changes
      | ok => exact ⟨begun.files, kept, changes⟩
    · exact (safe_furnish_changes from_.known kept.plain (fun _ => trivial) changes).weaken fun _ _ ended => ended.imp
        (fun _ _ changes => kept.of_changes shallow plain from_.known changes)
        fun _ _ ⟨_, _, _, changes⟩ => kept.of_changes shallow plain from_.known changes
  cases ending <;> exact ended.found

end Ways

end WheelInstaller.Install
