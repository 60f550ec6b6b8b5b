import WheelInstaller.Proofs.Install.Quiet
import WheelInstaller.Proofs.Install.Places
import WheelInstaller.Proofs.Install.Retention

/-! Filling the target, stage by stage. Between the stages nothing happens but that a path is noted. -/

namespace WheelInstaller.Install

open Host Host.Rules FileSystem

variable {request : Request} {opened : Opened} {world : World}

theorem safe_checkCancelled :
    host.Safe (Ends (fun _ after => after = world) fun _ after => after = world) checkCancelled.run world := by
  refine ⟨trivial, fun cancelled after replies => ?_⟩
  cases replies.isCancelled
  cases cancelled
  · exact rfl
  · exact rfl

theorem safe_readSummary {wheel : Wheel} {version : String} :
    host.Safe (Ends (fun _ after => after = world) fun _ after => after = world)
    (wheel.readSummary version).run world := by
  have reading : host.Safe (fun _ after => after = world) (wheel.readSummary version).run world := by
    refine safe_of_readSummary rfl fun path now here => ⟨trivial, fun answer after replies => ?_⟩
    exact replies.readFile.1.trans here
  exact reading.weaken fun outcome after same => by cases outcome <;> exact same

theorem safe_readSummary_keeping {rules : Rules World} (orderly : rules.Orderly)
    (ready : ∀ wanted now, rules.permits wanted now)
    {wheel : Wheel} {version : String} {good bad : World → Prop} (holds : good world) (fails : bad world) :
    rules.Safe (Ends (fun _ => good) fun _ => bad) (wheel.readSummary version).run world :=
  orderly.safe_of_host ready (safe_readSummary.weaken fun _ _ ended =>
    ended.imp (fun _ _ same => same ▸ holds) fun _ _ same => same ▸ fails)

/-- The installation stopped in a step, and left this. -/
def Halts (halted : Step → World → Prop) (error : InstallError) (after : World) : Prop :=
  ∃ step cause, error = .partialFailure step cause ∧ halted step after

section Steps

variable {rules : Rules World}

theorem safe_inStep {α : Type} {halted : Step → World → Prop} {good : α → World → Prop}
    {work : Attempt StepError α} (step : Step) (safe : rules.Safe (Ends good fun _ => halted step) work.run world) :
    rules.Safe (Ends good (Halts halted)) (inStep step work).run world :=
  Safe.wrapped (safe.failing fun error _ holds => ⟨step, error, rfl, holds⟩)

variable (orderly : rules.Orderly) (ready : ∀ wanted now, rules.permits wanted now)
include orderly ready

theorem safe_inStep_check {halted : Step → World → Prop} {good : World → Prop} (step : Step) (holds : good world)
    (stopped : halted step world) :
    rules.Safe (Ends (fun _ => good) (Halts halted)) (inStep step checkCancelled).run world :=
  safe_inStep step ((orderly.safe_of_host ready safe_checkCancelled).weaken fun _ _ ended =>
    ended.imp (fun _ _ same => same ▸ holds) fun _ _ same => same ▸ stopped)

/-- What each stage makes of what the one before it left, all of them make together; and where one stops, what it had
left. -/
theorem safe_furnish_steps (extracted : World → Prop) (kept normalized : List Path → World → Prop)
    (told : List Path → Summary → World → Prop) (halted : Step → World → Prop) (begun : extracted world)
    (retaining : ∀ now, extracted now → rules.Safe (Ends kept fun _ => halted .provenance)
      (retainArchive request opened.retained).run now)
    (normalizing : ∀ paths now, kept paths now →
      rules.Safe (Ends (fun _ => normalized paths) fun _ => halted .normalize)
      (Packages.normalize request.sitePackages request.implicit).run now)
    (reading : ∀ paths now, normalized paths now → rules.Safe (Ends (told paths) fun _ => halted .metadata)
      (opened.wheel.readSummary request.pythonVersion).run now)
    (unretained : ∀ now, extracted now → halted .provenance now)
    (unnormalized : ∀ paths now, kept paths now → halted .normalize now)
    (untold : ∀ paths now, normalized paths now → halted .metadata now) :
    rules.Safe (Ends (fun result => told result.1 result.2) (Halts halted)) (furnish request opened).run world := by
  unfold furnish
  refine (safe_inStep_check orderly ready .provenance begun (unretained _ begun)).andThen fun _ now holds => ?_
  refine (safe_inStep .provenance (retaining now holds)).andThen fun paths now holds => ?_
  refine (safe_inStep_check orderly ready .normalize holds (unnormalized paths _ holds)).andThen fun _ now holds => ?_
  refine (safe_inStep .normalize (Safe.wrapped (normalizing paths now holds))).andThen fun _ now holds => ?_
  refine (safe_inStep_check orderly ready .metadata holds (untold paths _ holds)).andThen fun _ now holds => ?_
  refine (safe_inStep .metadata (Safe.wrapped (reading paths now holds))).andThen fun summary now holds => ?_
  exact Safe.returned holds

theorem safe_fillTarget_parts {good : List Path × Summary → World → Prop} {bad : InstallError → World → Prop}
    (start noted extracted halted : World → Prop) (begun : start world)
    (noting : ∀ now, start now → noted { now with registry := now.registry.add request.sitePackages })
    (extracting : ∀ now, noted now → rules.Safe (Ends (fun _ => extracted) fun _ => halted)
      (extract opened.wheel opened.plan request.sitePackages request.jobs).run now)
    (furnishing : ∀ now, extracted now → rules.Safe (Ends good bad) (furnish request opened).run now)
    (unstarted : ∀ now, start now → halted now)
    (fails : ∀ cause now, halted now → bad (.partialFailure .extract cause) now) :
    rules.Safe (Ends good bad) (fillTarget request opened).run world := by
  let stopped (step : Step) (now : World) : Prop := step = .extract ∧ halted now
  have stops (error : InstallError) (after : World) (halts : Halts stopped error after) : bad error after := by
    obtain ⟨_, cause, rfl, rfl, holds⟩ := halts
    exact fails cause after holds
  have check : rules.Safe (Ends (fun _ => start) (Halts stopped)) (inStep .extract checkCancelled).run world :=
    safe_inStep_check orderly ready .extract begun ⟨rfl, unstarted _ begun⟩
  rw [fillTarget_eq]
  refine (check.failing stops).andThen fun _ now holds => ?_
  refine ⟨ready _ _, fun _ after replies => ?_⟩
  cases (orderly _ _ _ _ replies).register
  have extracts : rules.Safe (Ends (fun _ => extracted) fun _ => stopped .extract)
      (extract opened.wheel opened.plan request.sitePackages request.jobs).run
      { now with registry := now.registry.add request.sitePackages } :=
    (extracting _ (noting now holds)).failing fun _ _ halted => ⟨rfl, halted⟩
  exact ((safe_inStep .extract extracts).failing stops).andThen fun _ now holds => furnishing now holds

end Steps

theorem safe_fillTarget {rules : Rules World} (orderly : rules.Orderly) (ready : ∀ wanted now, rules.permits wanted now)
    (start noted extracted : World → Prop) (kept normalized : List Path → World → Prop)
    (told : List Path → Summary → World → Prop) {bad : World → Prop} (begun : start world)
    (noting : ∀ now, start now → noted { now with registry := now.registry.add request.sitePackages })
    (extracting : ∀ now, noted now → rules.Safe (Ends (fun _ => extracted) fun _ => bad)
      (extract opened.wheel opened.plan request.sitePackages request.jobs).run now)
    (retaining : ∀ now, extracted now → rules.Safe (Ends kept fun _ => bad)
      (retainArchive request opened.retained).run now)
    (normalizing : ∀ paths now, kept paths now → rules.Safe (Ends (fun _ => normalized paths) fun _ => bad)
      (Packages.normalize request.sitePackages request.implicit).run now)
    (reading : ∀ paths now, normalized paths now → rules.Safe (Ends (told paths) fun _ => bad)
      (opened.wheel.readSummary request.pythonVersion).run now)
    (stopped : ∀ now, start now ∨ extracted now ∨ (∃ paths, kept paths now ∨ normalized paths now) → bad now) :
    rules.Safe (Ends (fun result => told result.1 result.2) fun _ => bad) (fillTarget request opened).run world :=
  have furnishing (now : World) (holds : extracted now) : rules.Safe
      (Ends (fun result => told result.1 result.2) (Halts fun _ => bad)) (furnish request opened).run now :=
    safe_furnish_steps orderly ready extracted kept normalized told (fun _ => bad) holds retaining normalizing reading
      (fun now holds => stopped now (.inr (.inl holds)))
      (fun paths now holds => stopped now (.inr (.inr ⟨paths, .inl holds⟩)))
      fun paths now holds => stopped now (.inr (.inr ⟨paths, .inr holds⟩))
  safe_fillTarget_parts orderly ready start noted extracted bad begun noting extracting
    (fun now holds => (furnishing now holds).failing fun _ _ ⟨_, _, _, holds⟩ => holds)
    (fun now holds => stopped now (.inl holds)) fun _ _ => id

/-! ### Where files are written -/

/-- The location is the archive's, and a path to it can be recognized. -/
def Request.Recognizes (request : Request) (files : FileSystem) (location : Location) : Prop :=
  location = request.archive.locate files.home ∧ ∃ canonical, files.canonicalize request.archive = .ok canonical

/-- Where filling the target writes files. The archive is copied to where it is not. -/
def Opened.Fills (request : Request) (opened : Opened) (files : FileSystem) (location : Location) : Prop :=
  opened.Stores files.home location ∨ request.Initializes files.home location ∨
    location = opened.retained.locate files.home ∧ ¬ request.Recognizes files location

section Changing

variable {certain : Prop} {before : FileSystem} (known : opened.Known request) (plain : before.Plain)
variable (sure : request.ArchiveInside before.home → certain)
include known plain sure

/-- Furnishing changes nothing but what filling the target may change. -/
theorem safe_furnish_changes
    (changes : Changes (opened.Makes request before.home) (opened.Fills request before) before world.files) :
    (steady certain).Safe (Ends
      (fun _ after => Changes (opened.Makes request before.home) (opened.Fills request before) before after.files)
      (Halts fun _ after => Changes (opened.Makes request before.home)
        (opened.Fills request before) before after.files))
      (furnish request opened).run world := by
  let changed (now : World) : Prop :=
    Changes (opened.Makes request before.home) (opened.Fills request before) before now.files
  have copying (now : World) (changes : changed now) :
      (steady certain).Safe (Ends (fun _ => changed) fun _ => changed)
      (retainArchive request opened.retained).run now := by
    have discerns (source : request.SourceAt now.files opened.retained) : certain :=
      sure (changes.home ▸ known.archiveInside changes.plain source)
    have tried {after : FileSystem} (copying : Copying request opened.retained now.files after)
        (unlike : after ≠ now.files → ¬ request.SourceAt now.files opened.retained) :
        Changes (opened.Makes request before.home) (opened.Fills request before) before after := by
      refine Changes.trans changes ?_
      by_cases recognized : request.Recognizes before (opened.retained.locate before.home)
      · obtain ⟨same, canonical, known⟩ := recognized
        have still := canonicalize_persists plain changes.plain changes.home changes.persists known
        rw [← changes.home] at same
        cases copying.apart changes.plain still unlike with
        | inl unchanged => exact .of_eq changes.plain unchanged
        | inr apart => exact absurd same apart
      · rcases copying with unchanged | ⟨-, writes⟩
        · exact .of_eq changes.plain unchanged
        · exact .of_writes (.inr (.inr ⟨by rw [changes.home], by rwa [changes.home]⟩)) writes
    exact (safe_retainArchive changes.plain discerns).weaken fun outcome after ended =>
      ended.imp (fun _ _ retains => tried retains.copying.1 retains.copying.2)
        fun _ _ ⟨unlike, copying, _⟩ => tried copying fun _ => unlike
  refine safe_furnish_steps orderly_steady (fun _ _ => trivial) changed (fun _ => changed)
    (fun _ => changed) (fun _ _ => changed)
    (fun _ => changed) changes copying ?_ (fun _ now changes => safe_readSummary_keeping orderly_steady
      (fun _ _ => trivial) changes changes)
    (fun _ => id) (fun _ _ => id) fun _ _ => id
  intro _ now changes
  exact orderly_steady.safe_further changes (Packages.tries_normalize.allowing fun _ => confined_of_initializing)
    (fun _ => False.elim) (fun _ initializes => .inr (.inl initializes)) fun _ _ => trivial

theorem safe_fillTarget_changes (here : world.files = before) :
    (steady certain).Safe (Ends
      (fun _ after => Changes (opened.Makes request before.home) (opened.Fills request before) before after.files)
      fun _ after => Changes (opened.Makes request before.home) (opened.Fills request before) before after.files)
      (fillTarget request opened).run world := by
  let changed (now : World) : Prop :=
    Changes (opened.Makes request before.home) (opened.Fills request before) before now.files
  refine safe_fillTarget_parts orderly_steady (fun _ _ => trivial) changed changed changed changed
    (.of_eq plain here) (fun _ => id)
    (fun now changes => ?_)
    (fun now changes => (safe_furnish_changes known plain sure changes).failing fun _ _ ⟨_, _, _, changes⟩ => changes)
    (fun _ => id) fun _ _ => id
  exact orderly_steady.safe_further changes (tries_extract.allowing fun _ => confined_of_extracting)
    (fun _ => id) (fun _ => .inl) fun _ _ => trivial

end Changing

/-! ### The summary -/

/-- A summary has its place, and its draft has none. -/
structure Summarizes (request : Request) (summary : Summary) (before after : FileSystem) : Prop where
  plain : after.Plain
  home : after.home = before.home
  get? : ∀ location, after.get? location =
    if location = request.summaryPath.locate before.home then
      some (.file (before.modeAt (request.summaryDraft.locate before.home)) summary.render.toUTF8)
    else if location = request.summaryDraft.locate before.home then none else before.get? location

/-- Something was written of a draft of the summary, or nothing was. -/
def Drafts (request : Request) (before after : FileSystem) : Prop :=
  after = before ∨ before.Writes request.summaryDraft after

theorem Drafts.same {before after : FileSystem} (drafts : Drafts request before after) {location : Location}
    (apart : location ≠ request.summaryDraft.locate before.home) : after.get? location = before.get? location := by
  rcases drafts with rfl | writes
  · rfl
  · exact writes.other apart

theorem draft_apart (home : Location) : request.summaryDraft.locate home ≠ request.summaryPath.locate home := by
  rw [locate_summary, locate_draft]
  exact fun same => absurd (List.append_cancel_left same) (by decide)

theorem Drafts.unseen {before after : FileSystem} (drafts : Drafts request before after) (direct : request.Direct)
    (plain : before.Plain) (none : before.exists? request.summaryPath = false) :
    after.exists? request.summaryPath = false := by
  rcases drafts with rfl | draft
  · exact none
  · rw [← none]
    exact exists?_congr plain draft.plain direct.straight_summary draft.home (draft.other (draft_apart _).symm)

theorem safe_writeSummary {summary : Summary} (plain : world.files.Plain) :
    host.Safe (Ends (fun _ after => Summarizes request summary world.files after.files)
      fun _ after => after.registry = world.registry.add request.summaryDraft ∧
      Drafts request world.files after.files)
      (writeSummary request summary).run world := by
  unfold writeSummary
  refine ⟨trivial, fun _ noted replies => ?_⟩
  cases replies.register
  refine ⟨trivial, fun answer drafted replies => ?_⟩
  have silent : (Host.Request.write request.summaryDraft summary.render.toUTF8).Silent := trivial
  have registry := replies.registry silent
  have still : ({ world with registry := world.registry.add request.summaryDraft } : World).files.Plain := plain
  rcases replies.write still with ⟨rfl, draft⟩ | ⟨error, rfl, drafts⟩
  · have anchored := replies.write_anchored still
    refine ⟨trivial, fun answer after replies => ?_⟩
    have silent : (Host.Request.rename request.summaryDraft request.summaryPath).Silent := trivial
    have registry := (replies.registry silent).trans registry
    have found := draft.same
    rw [← draft.home] at found
    rcases replies.rename draft.plain found (draft_apart _) with ⟨rfl, moved, home, -, get?⟩ | ⟨error, rfl, same⟩
    · refine ⟨trivial, fun _ noted replies => ?_⟩
      cases replies.register
      refine ⟨moved, home.trans draft.home, fun location => ?_⟩
      rw [get?, draft.home]
      split
      · rfl
      · split
        · rfl
        next apart => exact draft.other apart
    · exact ⟨registry, .inr ⟨⟨_, _, same ▸ draft⟩, anchored.1, anchored.2⟩⟩
  · exact ⟨registry, drafts⟩

theorem safe_commit (paths : List Path) : host.Safe (fun _ after => after.files = world.files)
    (commit paths) world := by
  induction paths generalizing world with
  | nil => exact safe_pure.mpr rfl
  | cons path rest ih =>
    refine ⟨trivial, fun _ after replies => ?_⟩
    have looks : (Host.Request.release path).Looks := trivial
    have same := World.files_of_looks looks replies
    exact ih.weaken fun _ _ still => still.trans same

theorem safe_finish {noted : List Path} {summary : Summary} (plain : world.files.Plain) :
    host.Safe (Ends (fun told after => told = summary ∧ Summarizes request summary world.files after.files)
      fun _ after => after.registry = world.registry.add request.summaryDraft ∧
      Drafts request world.files after.files)
      (finish request noted summary).run world := by
  unfold finish
  refine (Safe.wrapped (safe_writeSummary plain)).andThen fun written now summarizes => ?_
  refine Safe.andThen (Safe.lift (safe_commit _)) fun _ after same => ?_
  exact Safe.returned ⟨rfl, same ▸ summarizes⟩

/-! ### The whole -/

/-- The wheel was opened from what the archive held. -/
structure Opened.From (request : Request) (opened : Opened) (files : FileSystem) (content : ByteArray) : Prop where
  known : opened.Known request
  read : files.readFile request.archive = .ok content
  wheel : Wheel.ofContent request.archive (.ok content) = .ok opened.wheel

theorem safe_openWheel_orderly {rules : Rules World} (orderly : rules.Orderly)
    (ready : ∀ wanted now, rules.permits wanted now) :
    rules.Safe (Ends (fun opened after => after = world ∧ ∃ content, opened.From request world.files content)
      fun error after => after = world ∧ error.Early) (openWheel request).run world := by
  let heard (answer : Except OsError ByteArray) (after : World) : Prop :=
    after = world ∧ ∀ content, answer = .ok content → world.files.readFile request.archive = .ok content
  have told (answer : Except OsError ByteArray) (after : World)
      (replies : rules.replies (.readFile request.archive) world answer after) : heard answer after :=
        (orderly _ _ _ _ replies).readFile
  refine (safe_openWheel (ready _ _) told).weaken fun outcome after ended => ended.imp ?_ ?_
  · rintro opened - ⟨known, answer, ⟨rfl, read⟩, wheel⟩
    cases answer with
    | ok content => exact ⟨rfl, content, known, read content rfl, wheel⟩
    | error => cases wheel
  · rintro error - ⟨rfl | ⟨answer, rfl, -⟩, early⟩ <;> exact ⟨rfl, early⟩

/-- What each stage makes of what the one before it left, a whole installation makes. -/
theorem safe_run {rules : Rules World} (orderly : rules.Orderly) (ready : ∀ wanted now, rules.permits wanted now)
    (filled : Opened → ByteArray → Summary → World → Prop) {prepared : List Path → World → Prop}
    {good : Summary → World → Prop} {bad : World → Prop} (unopened : bad world)
    (preparing : ∀ (opened : Opened) content, opened.From request world.files content →
      rules.Safe (Ends prepared fun _ => bad) (prepareTarget request).run world)
    (filling : ∀ opened content noted now, opened.From request world.files content → prepared noted now →
      rules.Safe (Ends (fun result => filled opened content result.2) fun _ => bad) (fillTarget request opened).run now)
    (finishing : ∀ opened content noted summary now, opened.From request world.files content →
      filled opened content summary now →
      rules.Safe (Ends good fun _ => bad) (finish request noted summary).run now) :
    rules.Safe (Ends good fun _ => bad) (run request).run world := by
  rw [run_eq]
  have opening :
    rules.Safe (Ends (fun opened after => after = world ∧ ∃ content, opened.From request world.files content)
      fun _ => bad) (openWheel request).run world :=
    (safe_openWheel_orderly orderly ready).failing fun _ _ ⟨same, _⟩ => same ▸ unopened
  refine opening.andThen fun opened now ⟨here, content, from_⟩ => ?_
  subst here
  refine (preparing opened content from_).andThen fun noted now prepared => ?_
  refine (filling opened content noted now from_ prepared).andThen fun ⟨kept, summary⟩ now filled => ?_
  exact finishing opened content _ summary now from_ filled

end WheelInstaller.Install
