import WheelInstaller.Proofs.FileSystem.Losses
import WheelInstaller.Proofs.Install.EarlyFailure
import WheelInstaller.Proofs.Registry

/-! What stays noted over a series of installations, and what cleaning up then takes away. One that succeeds forgets
all that it noted, but not what others left; one that fails leaves what it had come to. -/

namespace WheelInstaller

open Host Host.Rules

/-- The path ends at the location, or above or below it. -/
def FileSystem.Meets (files : FileSystem) (path : Path) (location : Location) : Prop :=
  ∃ site node, files.status false path = .ok (site, node) ∧ (site <+: location ∨ location <+: site)

namespace Host

variable {world after : World} {α : Type}

theorem World.Falters.distinct {request : Request} {files last : FileSystem} (falters : Falters files request last)
    (distinct : files.Distinct) : last.Distinct := by
  cases falters with
  | write _ ran => exact (FileSystem.keeps_writeFile _ _).of_run ran distinct
  | append _ ran => exact (FileSystem.keeps_append _ _).of_run ran distinct
  | copy _ _ ran => exact ((FileSystem.keeps_createFile _).of_run ran distinct).put _
  | removeDirectory _ thins => exact thins.distinct distinct

/-- Whatever is asked for of the files, their directories go on to hold every name once. -/
theorem World.Replies.distinct {request : Request} {answer : request.Answer} (quiet : request.Quiet)
    (distinct : world.files.Distinct) (replies : world.Replies request answer after) : after.files.Distinct := by
  rcases replies with (done | ⟨-, rfl⟩) | ⟨-, rfl | ⟨files, falters, rfl⟩⟩
  · have acted {β : Type} {operation : Operation} {action : FileSystem.Action β} {told : Except HostError β}
        (keeps : FileSystem.KeepsDistinct action) (done : (told, after) = world.act operation action) :
        after.files.Distinct := by
      cases acted_of_act action done with
      | done ran | failed ran => exact keeps.of_run ran distinct
      | refused => exact distinct
    cases request with
    | write path content => exact acted (FileSystem.keeps_writeFile path content) done
    | rename source target => exact acted (FileSystem.keeps_rename source target) done
    | copy source target => exact acted (FileSystem.keeps_copyFile source target) done
    | createDirectories path => exact acted (FileSystem.keeps_makeDirectoriesWithin _ path) done
    | removeFile path => exact acted (FileSystem.keeps_removeFile path) done
    | removeDirectory path => exact acted (FileSystem.keeps_removeDirectory path) done
    | createFile path =>
      exact acted (FileSystem.keeps_bind (FileSystem.keeps_createFile path) fun _ => FileSystem.keeps_pure _) done
    | append file chunk => exact acted (FileSystem.keeps_append file.location chunk) done
    | setMode path mode => exact acted (FileSystem.keeps_setMode path mode) done
    | commandOutput | register | release | cleanUp => exact quiet.elim
    | _ =>
      cases done
      exact distinct
  · exact distinct
  · exact distinct
  · exact falters.distinct distinct

theorem World.Replies.release {path : Path} {answer : Unit} (replies : world.Replies (.release path) answer after) :
    after = { world with registry := world.registry.remove path } := by
  rcases replies with (done | ⟨cancelled, -⟩) | ⟨refused, -⟩
  · cases done
    rfl
  · cases cancelled
  · exact refused.elim

/-- Of what is noted, all was noted before or is one of these paths. -/
structure Noting (before : Registry) (noted : Path → Prop) (now : World) : Prop where
  distinct : now.files.Distinct
  known : ∀ path ∈ now.registry.paths, path ∈ before.paths ∨ noted path

variable {before : Registry} {noted more : Path → Prop}

theorem Noting.weaken (noting : Noting before noted world) (implies : ∀ path, noted path → more path) :
    Noting before more world :=
  ⟨noting.distinct, fun path member => (noting.known path member).imp_right (implies path)⟩

theorem Noting.quiet {request : Request} {answer : request.Answer} (noting : Noting before noted world)
    (replies : doubtful.replies request world answer after) (quiet : request.Quiet) : Noting before noted after := by
  rcases replies with replies | ⟨-, rfl⟩
  · exact ⟨replies.distinct quiet noting.distinct, replies.registry quiet.silent ▸ noting.known⟩
  · exact noting

theorem Noting.register {path : Path} {answer : Unit} (noting : Noting before noted world)
    (replies : doubtful.replies (.register path) world answer after) :
    Noting before (fun other => noted other ∨ other = path) after := by
  rcases replies with replies | ⟨denied, -⟩
  · cases replies.register
    refine ⟨noting.distinct, fun other member => ?_⟩
    rcases Registry.mem_add member with member | same
    · exact (noting.known other member).imp_right .inl
    · exact .inr (.inr same)
  · exact denied.elim

theorem Noting.release {path : Path} {answer : Unit} (noting : Noting before noted world)
    (replies : doubtful.replies (.release path) world answer after) :
    Noting before (fun other => noted other ∧ other ≠ path) after := by
  rcases replies with replies | ⟨denied, -⟩
  · cases replies.release
    refine ⟨noting.distinct, fun other member => ?_⟩
    obtain ⟨member, different⟩ := Registry.mem_remove.mp member
    refine (noting.known other member).imp_right fun holds => ⟨holds, ?_⟩
    rintro rfl
    simp [Path.same] at different
  · exact denied.elim

theorem Noting.uses {program : Program α} (noting : Noting before noted world) (uses : program.Uses Request.Quiet) :
    doubtful.Safe (fun _ after => Noting before noted after) program world := by
  induction program generalizing world with
  | done => exact noting
  | ask request next ih =>
      exact ⟨trivial, fun answer after replies => ih answer (noting.quiet replies uses.1) (uses.2 answer)⟩

theorem Noting.tries {ε : Type} {work : Attempt ε α} (noting : Noting before noted world)
    (uses : work.run.Uses Request.Quiet) :
    doubtful.Safe (Ends (fun _ after => Noting before noted after) fun _ after =>
      Noting before noted after) work.run world :=
  (noting.uses uses).weaken fun outcome _ holds => by cases outcome <;> exact holds

end Host

namespace Install

variable {request : Request} {world : World} {before : Registry} {noted : Path → Prop}

/-- What a failed installation may leave noted. -/
def Request.Leaves (request : Request) (path : Path) : Prop :=
  path = request.directory ∨ path = request.sitePackages ∨ request.retainedPath = .ok path ∨ path = request.summaryDraft

/-- What belongs to an installation. -/
def Request.Places (request : Request) (path : Path) : Prop :=
  path = request.directory ∨ path = request.sitePackages ∨ request.retainedPath = .ok path ∨ path = request.summaryPath

/-- Installs one after the other, whatever becomes of each, and tells what became of them. -/
def runEach : List Request → Program (List (Request × Except InstallError Summary))
  | [] => return []
  | request :: rest => do
    let outcome ← (run request).run
    return (request, outcome) :: (← runEach rest)

/-- One of these calls failed and is told to leave a partial tree; it may have left this noted. -/
def LeftBy (calls : List (Request × Except InstallError Summary)) (path : Path) : Prop :=
  ∃ call ∈ calls, (∃ error, call.2 = .error error ∧ error.leftPartialTree = true) ∧ call.1.Leaves path

theorem noting_prepareTarget (noting : Noting before (fun _ => False) world) :
    doubtful.Safe (Ends (fun paths after => Noting before (· ∈ paths) after ∧ ∀ path ∈ paths, path = request.directory)
      fun _ after => Noting before (fun _ => False) after) (prepareTarget request).run world := by
  -- Of a target that was there nothing is noted.
  have none {now : World} (holds : Noting before (fun _ => False) now) : Noting before (· ∈ ([] : List Path)) now :=
    holds.weaken fun _ => False.elim
  unfold prepareTarget
  refine ⟨trivial, fun answer now replies => ?_⟩
  have noting := noting.quiet replies trivial
  cases answer with
  | false =>
    refine ⟨trivial, fun answer made replies => ?_⟩
    have noting := noting.quiet replies trivial
    cases answer with
    | error => exact noting
    | ok =>
      refine ⟨trivial, fun _ after replies => ?_⟩
      exact ⟨(noting.register replies).weaken fun path holds => by simpa using holds, by simp⟩
  | true =>
    refine ⟨trivial, fun answer found replies => ?_⟩
    have noting := noting.quiet replies trivial
    cases answer with
    | false => exact noting
    | true =>
      refine Safe.andThen
        (Safe.lift (noting.uses ((uses_sourceIdentity request).imp fun _ => Host.Request.Reads.quiet)))
        fun source now noting => ?_
      refine ⟨trivial, fun answer listed replies => ?_⟩
      have noting := noting.quiet replies trivial
      cases answer with
      | error => exact noting
      | ok children =>
        refine Safe.andThen
          (Safe.lift (noting.uses ((uses_withoutSource source children).imp fun _ => Host.Request.Reads.quiet)))
          fun existing now noting => ?_
        split
        · exact ⟨none noting, by simp⟩
        · split
          · exact noting
          · refine Safe.andThen (Safe.wrapped (noting.tries (uses_clearTarget request existing))) fun _ now noting => ?_
            exact ⟨none noting, by simp⟩

theorem noting_retainArchive {destination : Path} (noting : Noting before noted world) :
    doubtful.Safe (Ends
      (fun paths after => Noting before (fun path => noted path ∨ path ∈ paths) after ∧
        ∀ path ∈ paths, path = destination)
      fun _ after => Noting before (fun path => noted path ∨ path = destination) after)
      (retainArchive request destination).run world := by
  unfold retainArchive
  refine Safe.andThen (Safe.lift (noting.uses ((uses_sourceIdentity request).imp fun _ => Host.Request.Reads.quiet)))
    fun source now noting => ?_
  refine Safe.andThen
    (Safe.lift (noting.uses ((uses_isSource source destination).imp fun _ => Host.Request.Reads.quiet)))
    fun isArchive now noting => ?_
  split
  · exact ⟨noting.weaken fun _ => .inl, by simp⟩
  · refine ⟨trivial, fun _ now replies => ?_⟩
    have noting := noting.register replies
    refine ⟨trivial, fun answer copied replies => ?_⟩
    have noting := noting.quiet replies trivial
    cases answer with
    | error => exact noting
    | ok => exact ⟨noting.weaken fun path holds => by simpa using holds, by simp⟩

theorem noting_fillTarget {opened : Opened} (noting : Noting before noted world) :
    doubtful.Safe (Ends
      (fun result after =>
        Noting before (fun path => (noted path ∨ path = request.sitePackages) ∨ path ∈ result.1) after ∧
        ∀ path ∈ result.1, path = opened.retained)
      fun _ after =>
      Noting before (fun path => (noted path ∨ path = request.sitePackages) ∨ path = opened.retained) after)
      (fillTarget request opened).run world := by
  have cancelling {step : Step} {holds : Path → Prop} {now : World} (noting : Noting before holds now) :
      doubtful.Safe (Ends (fun _ after => Noting before holds after) fun _ after => Noting before holds after)
        (inStep step checkCancelled).run now := Safe.wrapped (noting.tries uses_checkCancelled)
  unfold fillTarget
  refine Safe.andThen ((cancelling noting).failing fun _ _ holds =>
    holds.weaken fun _ holds => .inl (.inl holds)) fun _ now noting => ?_
  refine ⟨trivial, fun _ now replies => ?_⟩
  have noting := noting.register replies
  have early {now : World} (holds : Noting before (fun path => noted path ∨ path = request.sitePackages) now) :
      Noting before (fun path => (noted path ∨ path = request.sitePackages) ∨ path = opened.retained) now :=
        holds.weaken fun _ => .inl
  refine Safe.andThen (Safe.wrapped ((noting.tries (uses_extract _ _ _ _)).failing fun _ _ => early))
    fun _ now noting => ?_
  refine Safe.andThen ((cancelling noting).failing fun _ _ => early) fun _ now noting => ?_
  refine Safe.andThen (Safe.wrapped (noting_retainArchive noting)) fun kept now ⟨noting, only⟩ => ?_
  have late {now : World}
    (holds : Noting before (fun path => (noted path ∨ path = request.sitePackages) ∨ path ∈ kept) now) :
      Noting before (fun path => (noted path ∨ path = request.sitePackages) ∨ path = opened.retained) now :=
    holds.weaken fun path holds => holds.imp_right (only path)
  refine Safe.andThen ((cancelling noting).failing fun _ _ => late) fun _ now noting => ?_
  refine Safe.andThen
    (Safe.wrapped (Safe.wrapped ((noting.tries (Packages.uses_normalize _ _)).failing fun _ _ => late)))
    fun _ now noting => ?_
  refine Safe.andThen ((cancelling noting).failing fun _ _ => late) fun _ now noting => ?_
  refine Safe.andThen
    (Safe.wrapped (Safe.wrapped ((noting.tries (opened.wheel.uses_readSummary _)).failing fun _ _ => late)))
    fun summary now noting => ?_
  exact ⟨noting, only⟩

theorem noting_commit {paths : List Path} (noting : Noting before (· ∈ paths) world) :
    doubtful.Safe (fun _ after => Noting before (fun _ => False) after) (commit paths) world := by
  induction paths generalizing world with
  | nil => exact noting.weaken fun path member => by simp at member
  | cons path rest ih =>
    refine ⟨trivial, fun _ after replies => ih ((noting.release replies).weaken fun other ⟨member, different⟩ => ?_)⟩
    exact (List.mem_cons.mp member).resolve_left different

theorem noting_finish {paths : List Path} {summary : Summary} (noting : Noting before (· ∈ paths) world) :
    doubtful.Safe (Ends (fun _ after => Noting before (fun _ => False) after)
      fun _ after => Noting before (fun path => path ∈ paths ∨ path = request.summaryDraft) after)
      (finish request paths summary).run world := by
  unfold finish writeSummary
  refine ⟨trivial, fun _ now replies => ?_⟩
  have noting := noting.register replies
  refine ⟨trivial, fun answer written replies => ?_⟩
  have noting := noting.quiet replies trivial
  cases answer with
  | error => exact noting
  | ok =>
    refine ⟨trivial, fun answer renamed replies => ?_⟩
    have noting := noting.quiet replies trivial
    cases answer with
    | error => exact noting
    | ok =>
      refine ⟨trivial, fun _ now replies => ?_⟩
      refine Safe.andThen (Safe.lift (noting_commit ((noting.register replies).weaken fun path holds => ?_)))
        fun _ after noting => noting
      simpa [or_assoc] using holds

theorem noting_told {α : Type} {good : α → World → Prop} {work : Attempt InstallError α}
    (noting : doubtful.Safe (Ends good fun _ after => Noting before noted after) work.run world)
    (told : doubtful.Safe (Ends (fun _ _ => True) fun error _ => error.leftPartialTree = true) work.run world)
    (left : ∀ path, noted path → request.Leaves path) :
    doubtful.Safe
    (Ends good fun error after => Noting before (fun path => error.leftPartialTree = true ∧ request.Leaves path) after)
      work.run world := by
  refine (Safe.and noting told).weaken fun outcome after ⟨ended, told⟩ => ?_
  cases outcome with
  | ok => exact ended
  | error => exact Noting.weaken ended fun path holds => ⟨told, left path holds⟩

/-- A success leaves nothing noted that was not noted before, and a failure only if it is told to leave a partial
tree. -/
theorem noting_run (noting : Noting before (fun _ => False) world) :
    doubtful.Safe (Ends (fun _ after => Noting before (fun _ => False) after)
      fun error after => Noting before (fun path => error.leftPartialTree = true ∧ request.Leaves path) after)
      (run request).run world := by
  rw [run_eq]
  have open_ (wanted : Host.Request) (now : World) : doubtful.permits wanted now := trivial
  have nothing {more : Path → Prop} {now : World} (noting : Noting before (fun _ => False) now) :
    Noting before more now :=
    noting.weaken fun _ => False.elim
  have reading : ∀ answer after, doubtful.replies (.readFile request.archive) world answer after →
    Noting before (fun _ => False) after :=
    fun _ _ replies => noting.quiet replies trivial
  refine Safe.andThen ((safe_openWheel trivial reading).failing fun _ now ⟨reached, _⟩ => ?_)
    fun opened now ⟨known, _, noting, _⟩ => ?_
  · rcases reached with rfl | ⟨_, noting⟩
    · exact nothing noting
    · exact nothing noting
  refine Safe.andThen ((noting_prepareTarget noting).failing fun _ _ => nothing)
    fun prepared begun ⟨noting, directory⟩ => ?_
  refine Safe.andThen (noting_told (noting_fillTarget noting) (safe_fillTarget_partial open_ request opened begun)
    fun path holds => ?_)
    fun filled now ⟨noting, copy⟩ => ?_
  · rcases holds with (member | rfl) | rfl
    · exact .inl (directory path member)
    · exact .inr (.inl rfl)
    · exact .inr (.inr (.inl known.retained))
  have noting : Noting before (· ∈ prepared ++ [request.sitePackages] ++ filled.1) now := by
    simpa [or_assoc] using noting
  refine noting_told (noting_finish noting) (safe_finish_partial open_ request _ filled.2 now) fun path holds => ?_
  simp only [List.mem_append, List.mem_singleton] at holds
  rcases holds with ((member | rfl) | member) | rfl
  · exact .inl (directory path member)
  · exact .inr (.inl rfl)
  · exact .inr (.inr (.inl (copy path member ▸ known.retained)))
  · exact .inr (.inr (.inr rfl))

theorem noting_runEach (requests : List Request) (noting : Noting before (fun _ => False) world) :
    doubtful.Safe (fun calls after => Noting before (LeftBy calls) after) (runEach requests) world := by
  induction requests generalizing before world with
  | nil => exact noting.weaken fun _ => False.elim
  | cons request rest ih =>
    refine safe_bind.mpr ((noting_run noting).weaken fun outcome now ended => ?_)
    have first : Noting before (LeftBy [(request, outcome)]) now := by
      cases outcome with
      | ok => exact Noting.weaken ended fun _ => False.elim
      | error error => exact Noting.weaken ended fun path ⟨told, left⟩ => ⟨_, List.mem_singleton_self _,
        ⟨error, rfl, told⟩, left⟩
    have again : Noting now.registry (fun _ => False) now := ⟨first.distinct, fun _ => .inl⟩
    refine safe_bind.mpr ((ih again).weaken fun calls after later =>
      safe_pure.mpr ⟨later.distinct, fun path member => ?_⟩)
    rcases later.known path member with member | ⟨call, member, left⟩
    · refine (first.known path member).imp_right fun ⟨call, member, left⟩ => ⟨call, ?_, left⟩
      cases List.mem_singleton.mp member
      exact List.mem_cons_self
    · exact .inr ⟨call, List.mem_cons_of_mem _ member, left⟩

/-- After a series of installations of which the last succeeds, all that is still noted was left by one that failed; and
cleaning up then leaves any part of the last as it is, unless a path that was left so ends at it, above or below. -/
theorem runEach_keeps_committed (requests : List Request) (world : World) (distinct : world.files.Distinct)
    (fresh : world.registry = {}) :
    doubtful.Safe (fun calls after => ∀ earlier last summary, calls = earlier ++ [(last, .ok summary)] →
      (∀ path ∈ after.registry.paths, LeftBy earlier path) ∧
      ∀ part, last.Places part → ∀ follow site node, after.files.status follow part = .ok (site, node) →
        (∀ path ∈ after.registry.paths, LeftBy earlier path → ¬ after.files.Meets path site) →
        ∀ location, site <+: location →
        (after.registry.cleanUp after.files).2.get? location = after.files.get? location)
      (runEach requests) world := by
  have noting : Noting world.registry (fun _ => False) world := ⟨distinct, fun _ => .inl⟩
  refine (noting_runEach requests noting).weaken fun calls after noting earlier last summary ended => ?_
  have left (path : Path) (member : path ∈ after.registry.paths) : LeftBy earlier path := by
    rcases noting.known path member with before | ⟨call, member, ⟨error, failed, told⟩, left⟩
    · simp [fresh] at before
    · refine ⟨call, ?_, ⟨error, failed, told⟩, left⟩
      subst ended
      rcases List.mem_append.mp member with member | member
      · exact member
      · cases List.mem_singleton.mp member
        cases failed
  refine ⟨left, fun part _ follow site node found spared location below => ?_⟩
  refine Registry.get?_cleanUp noting.distinct fun path member ⟨place, ending, reached, above⟩ => ?_
  exact spared path member (left path member) ⟨place, ending, reached, List.prefix_or_prefix_of_prefix above below⟩

/-- Two calls, of which the first one fails: what it left is still noted, but apart from what the second one
installs. -/
theorem runEach_keeps_committed_over :
    firstWorld.files.Distinct ∧ firstWorld.registry = {} ∧
      doubtful.Runs (runEach [lackingRequest, overRequest]) firstWorld
        [(lackingRequest, .error lackingError), (overRequest, .ok Wheel.smallSummary)] overWorld ∧
      overWorld.registry = remainsNoted ∧
      (∀ path ∈ overWorld.registry.paths, LeftBy [(lackingRequest, .error lackingError)] path) ∧
      ∀ part, overRequest.Places part → ∀ follow site node, overWorld.files.status follow part = .ok (site, node) →
        ∀ location, site <+: location →
          (overWorld.registry.cleanUp overWorld.files).2.get? location = overWorld.files.get? location := by
  have plain : firstWorld.files.Plain := ⟨by decide, rfl⟩
  -- For any requests first: the programs would be run otherwise.
  have whole {first second : Request} {before mid after : World} {one other : Except InstallError Summary}
      (distinct : before.files.Distinct) (fresh : before.registry = {})
      (begun : (run first).run.run World.perform before = (one, mid))
      (ended : (run second).run.run World.perform mid = (other, after)) :=
    have nothing : doubtful.Runs (runEach []) after [] after := .done
    have rest : doubtful.Runs (runEach [second]) mid [(second, other)] after :=
      (runs_of_run doubtful_perform ended).bind (nothing.bind .done)
    have runs : doubtful.Runs (runEach [first, second]) before [(first, one), (second, other)] after :=
      (runs_of_run doubtful_perform begun).bind (rest.bind .done)
    And.intro runs ((runEach_keeps_committed [first, second] before distinct fresh).runs runs)
  obtain ⟨runs, keeps⟩ := whole plain.distinct rfl run_lacking run_over
  obtain ⟨left, kept⟩ := keeps [(lackingRequest, .error lackingError)] overRequest Wheel.smallSummary rfl
  refine ⟨plain.distinct, rfl, runs, rfl, left, fun part places follow site node found => ?_⟩
  refine kept part places follow site node found fun path member _ ⟨place, ending, reached, meets⟩ => ?_
  -- The installation is in one directory, and what is noted in another.
  have first : site.head? = some "out" := by
    have sited : ∀ part ∈ [overRequest.directory, overRequest.sitePackages,
        overRequest.directory / "d-1-py3-none-any.whl", overRequest.summaryPath], ∀ follow,
        (overWorld.files.status follow part).toOption.map (·.1.head?) = some (some "out") := by
      decide +kernel
    have listed :
      part ∈ [overRequest.directory, overRequest.sitePackages, overRequest.directory / "d-1-py3-none-any.whl",
        overRequest.summaryPath] := by
      have retained : overRequest.retainedPath = .ok (overRequest.directory / "d-1-py3-none-any.whl") := by
        decide +kernel
      rcases places with rfl | rfl | also | rfl
      · simp
      · simp
      · cases retained.symm.trans also
        simp
      · simp
    have told := sited part listed follow
    rw [found] at told
    exact Option.some.inj told
  have second : place.head? = some "sub" := by
    have sited : ∀ path ∈ remainsNoted.paths,
        (overWorld.files.status false path).toOption.map (·.1.head?) = some (some "sub") := by
      decide +kernel
    have told := sited path member
    rw [reached] at told
    exact Option.some.inj told
  have spread {above below : Location} {name : String} (inside : above <+: below) (top : above.head? = some name) :
      below.head? = some name := by
    obtain ⟨rest, rfl⟩ := inside
    simp [List.head?_append, top]
  rcases meets with inside | inside
  · exact absurd ((spread inside second).symm.trans first) (by decide)
  · exact absurd ((spread inside first).symm.trans second) (by decide)

end Install
end WheelInstaller
