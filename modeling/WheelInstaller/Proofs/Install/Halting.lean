import WheelInstaller.Proofs.Install.EarlyFailure
import WheelInstaller.Proofs.Install.Furnishing

/-! What an installation leaves that stops in a step. The stages before that step are complete, and those after it have
not begun. -/

namespace WheelInstaller.Install

open Host Host.Rules FileSystem Wheel

variable {request : Request} {opened : Opened} {world : World} {before after files : FileSystem} {home : Location}
variable {mode : Nat} {file kept : ByteArray} {step : Step}

/-- What is there when an installation has stopped in a step. -/
structure Halted (request : Request) (opened : Opened) (home : Location) (mode : Nat)
    (file kept : ByteArray) (step : Step) (files : FileSystem) : Prop where
  extracted : step ≠ .extract → ∀ pair ∈ opened.plan.files, ∃ content, Decodes request.archive file pair.1 content ∧
    files.get? (pair.2.locate home) = some (.file ((pair.1.mode.map (· % 0o1000)).getD 0o444) content)
  retained : step = .normalize ∨ step = .metadata → files.get? (opened.retained.locate home) = some (.file mode kept)
  initialized : step = .metadata → ∀ names, Lacking opened.wheel.entries request.implicit names →
    files.get? (request.sitePackages.locate home ++ names) = some (.file newFileMode .empty)
  /-- No copy was made; only the archive itself can be where it would be. -/
  unretained : step = .extract → ∀ node, files.get? (opened.retained.locate home) = some node →
    opened.retained.locate home = request.archive.locate home ∧ node = .file mode file
  uninitialized : step = .extract ∨ step = .provenance → ∀ names other content,
    files.get? (request.sitePackages.locate home ++ names) = some (.file other content) →
    Plan.Stored opened.wheel.entries names

/-! ### Stage by stage -/

section Stages

variable (known : opened.Known request) (straight : request.directory.Straight)
include known

/-- Before anything is copied or initialized, only planned files are below the directory of the packages. -/
theorem stored_of_changes (bare : Bare request home mode file before)
    (changes : Changes (opened.Makes request home) (opened.Stores home) before after) {names : List String}
    {other : Nat} {content : ByteArray}
    (found : after.get? (request.sitePackages.locate home ++ names) = some (.file other content)) :
    Plan.Stored opened.wheel.entries names := by
  have free := bare.free names
  rcases changes.get? (request.sitePackages.locate home ++ names) with same | ⟨-, -, directory⟩
    | ⟨⟨entry, path, planned, here⟩, -⟩
  · cases free.symm.trans (same.symm.trans found)
  · cases directory.symm.trans found
  · obtain ⟨member, isFile⟩ := known.faithful.mem_entries planned
    exact ⟨entry, member, isFile, List.append_cancel_left (here.trans (known.locate_planned planned home))⟩

theorem halted_extract (straight : request.directory.Straight) (bare : Bare request home mode file before)
    (changes : Changes (opened.Makes request home) (opened.Stores home) before after) :
    Halted request opened home mode file kept .extract after := by
  refine ⟨by simp, by simp, by simp, fun _ node found => ?_,
    fun _ names other content found => stored_of_changes known bare changes found⟩
  obtain ⟨name, named, located⟩ := known.locate_retained home
  have unstored : ¬ opened.Stores home (opened.retained.locate home) := by
    rintro ⟨entry, path, planned, here⟩
    exact known.retained_apart home _ (here.trans (known.locate_planned planned home))
  have unmade : ¬ opened.Makes request home (opened.retained.locate home) := by
    intro makes
    obtain ⟨names, below⟩ := makes.below known straight
    rw [located, List.prefix_append_right_inj, List.cons_prefix_cons] at below
    exact (archiveName_apart named).1 below.1
  rw [changes.same unstored unmade] at found
  have here := (bare.alone name [] (located ▸ by simp [found])).2.2
  rw [located] at found ⊢
  exact ⟨here, bare.archive node (here ▸ found)⟩

/-- Copying touches nothing but the place of the copy. -/
theorem halted_provenance (bare : Bare request before.home mode file before)
    (extracted : Extracted request opened file before after)
    (same : ∀ location, location ≠ opened.retained.locate before.home → files.get? location = after.get? location) :
    Halted request opened before.home mode file kept .provenance files := by
  have packages (names : List String) : files.get? (request.sitePackages.locate before.home ++ names) =
      after.get? (request.sitePackages.locate before.home ++ names) :=
    same _ (known.retained_apart before.home names).symm
  refine ⟨fun _ pair member => ?_, by simp, by simp, by simp, fun _ names other content found => ?_⟩
  · obtain ⟨content, decodes, there⟩ := extracted.files pair member
    refine ⟨content, decodes, ?_⟩
    rw [known.locate_planned member] at there ⊢
    rw [packages, there]
  · exact stored_of_changes known bare extracted.changes ((packages names).symm.trans found)

variable {packages : List String → Node → Prop}
    (furnished : Furnished request home opened.wheel.entries mode file kept packages files)
variable (decoded : Decoded request.archive opened.wheel.entries file)
include furnished decoded

/-- Once the archive was copied, planned files and the copy stay what they are, whatever is done to other files. -/
theorem Furnished.holds_after
    (contents : ∀ names node, Contents request.archive opened.wheel.entries file names node → packages names node)
    (planned : ∀ names, Plan.Stored opened.wheel.entries names →
      after.get? (request.sitePackages.locate home ++ names) = files.get? (request.sitePackages.locate home ++ names))
    (copy : after.get? (opened.retained.locate home) = files.get? (opened.retained.locate home)) :
    (∀ pair ∈ opened.plan.files, ∃ content, Decodes request.archive file pair.1 content ∧
      after.get? (pair.2.locate home) = some (.file ((pair.1.mode.map (· % 0o1000)).getD 0o444) content)) ∧
      after.get? (opened.retained.locate home) = some (.file mode kept) := by
  refine ⟨fun pair member => ?_, ?_⟩
  · obtain ⟨inside, isFile⟩ := known.faithful.mem_entries member
    obtain ⟨content, decodes⟩ := decoded pair.1 inside isFile
    refine ⟨content, decodes, ?_⟩
    rw [known.locate_planned member, planned _ ⟨_, inside, isFile, rfl⟩]
    exact (furnished.packages _ _).mpr (contents _ _ (.entry inside isFile decodes))
  · obtain ⟨name, named, located⟩ := known.locate_retained home
    rw [copy, located, furnished.copied name named]

end Stages

section Furnishing

variable (known : opened.Known request) (decoded : Decoded request.archive opened.wheel.entries file)
include known decoded

theorem halted_normalize
    (furnished : Furnished request home opened.wheel.entries mode file kept
      (Contents request.archive opened.wheel.entries file) files)
    (changes : Changes (fun _ => False) (fun location => ∃ names,
      Packages.Missing files request.sitePackages request.implicit names ∧
      location = request.sitePackages.locate files.home ++ names) files after) :
    Halted request opened home mode file kept .normalize after := by
  have here := furnished.here
  subst here
  have planned (names : List String) (stored : Plan.Stored opened.wheel.entries names) :
      after.get? (request.sitePackages.locate files.home ++ names) = files.get?
        (request.sitePackages.locate files.home ++ names) := by
    obtain ⟨entry, member, isFile, rfl⟩ := stored
    obtain ⟨content, decodes⟩ := decoded entry member isFile
    have found := (furnished.packages _ _).mpr (.entry member isFile decodes)
    refine changes.same ?_ id
    rintro ⟨names, missing, same⟩
    exact missing.free furnished.plain (List.append_cancel_left same ▸ found)
  have copy : after.get? (opened.retained.locate files.home) = files.get? (opened.retained.locate files.home) := by
    refine changes.same ?_ id
    rintro ⟨names, -, same⟩
    exact known.retained_apart _ names same
  obtain ⟨extracted, retained⟩ := furnished.holds_after known decoded (fun _ _ => id) planned copy
  exact ⟨fun _ => extracted, fun _ => retained, by simp, by simp, by simp⟩

/-- Writing the summary touches nothing but its draft. -/
theorem halted_metadata
    (furnished : Furnished request home opened.wheel.entries mode file kept
      (Packaged request opened.wheel.entries file) files)
    (same : ∀ location, location ≠ request.summaryDraft.locate home → after.get? location = files.get? location) :
    Halted request opened home mode file kept .metadata after := by
  have packages (names : List String) :
      after.get? (request.sitePackages.locate home ++ names) = files.get?
        (request.sitePackages.locate home ++ names) := by
    refine same _ ?_
    rw [locate_packages, locate_draft]
    exact apart_of_name_ne (by decide)
  have copy : after.get? (opened.retained.locate home) = files.get? (opened.retained.locate home) := by
    refine same _ ?_
    obtain ⟨name, named, located⟩ := known.locate_retained home
    rw [located, locate_draft]
    exact apart_of_name_ne (archiveName_apart named).2.2
  obtain ⟨extracted, retained⟩ := furnished.holds_after known decoded (fun _ _ => .inl)
    (fun names _ => packages names) copy
  refine ⟨fun _ => extracted, fun _ => retained, fun _ names lacking => ?_, by simp, by simp⟩
  rw [packages]
  exact (furnished.packages _ _).mpr (.inr ⟨lacking, rfl⟩)

end Furnishing

/-! ### The whole -/

section Whole

variable {rules : Rules World}

theorem safe_extract_steps (orderly : rules.Orderly) (ready : ∀ wanted now, rules.permits wanted now)
    (known : opened.Known request) (opens : ofContent request.archive (.ok file) = .ok opened.wheel)
    (bare : Bare request world.files.home mode file world.files) :
    rules.Safe (Ends (fun _ after => Extracted request opened file world.files after.files)
      fun _ after => Changes (opened.Makes request world.files.home)
        (opened.Stores world.files.home) world.files after.files)
      (extract opened.wheel opened.plan request.sitePackages request.jobs).run world := by
  have extracting := yields_extract_bare known opens bare
  have changing : host.Safe (Ends
      (fun _ after => Changes (opened.Makes request world.files.home)
        (opened.Stores world.files.home) world.files after.files)
      fun _ after => Changes (opened.Makes request world.files.home)
        (opened.Stores world.files.home) world.files after.files)
      (extract opened.wheel opened.plan request.sitePackages request.jobs).run world :=
    orderly_host.safe_further (.refl bare.plain) (tries_extract.allowing fun _ => confined_of_extracting)
      (fun _ => id) (fun _ => id)
      fun _ _ => trivial
  refine orderly.safe_of_host ready ((Safe.and extracting changing).weaken fun outcome after ended => ?_)
  cases outcome with
  | ok => exact ended.1
  | error => exact ended.2

theorem safe_furnish_halts (orderly : rules.Orderly) (ready : ∀ wanted now, rules.permits wanted now)
    (known : opened.Known request)
    (bare : Bare request before.home mode file before) (extracted : Extracted request opened file before world.files)
    (fine : ByteArray → Prop) (whole : fine file)
    (retaining : ∀ now, Extracted request opened file before now.files → rules.Safe
      (Ends (fun _ after => ∃ kept, fine kept ∧ Furnished request before.home opened.wheel.entries mode file kept
        (Contents request.archive opened.wheel.entries file) after.files)
      fun _ after => ∀ location, location ≠ opened.retained.locate before.home →
        after.files.get? location = now.files.get? location)
      (retainArchive request opened.retained).run now) :
    rules.Safe (Ends
      (fun _ now => Decoded request.archive opened.wheel.entries file ∧ ∃ kept, fine kept ∧
        Furnished request before.home opened.wheel.entries mode file kept
          (Packaged request opened.wheel.entries file) now.files)
      (Halts fun step after => ∃ kept, fine kept ∧ Halted request opened before.home mode file kept step after.files))
      (furnish request opened).run world := by
  let halted (step : Step) (after : World) : Prop :=
    ∃ kept, fine kept ∧ Halted request opened before.home mode file kept step after.files
  let furnished (packages : List String → Node → Prop) (now : World) : Prop :=
    Decoded request.archive opened.wheel.entries file ∧ ∃ kept, fine kept ∧
      Furnished request before.home opened.wheel.entries mode file kept packages now.files
  -- What there is when a step has not changed anything yet.
  have unretained (now : World) (extracted : Extracted request opened file before now.files) : halted .provenance now :=
    ⟨file, whole, halted_provenance known bare extracted fun _ _ => rfl⟩
  have unnormalized (now : World) (holds : furnished (Contents request.archive opened.wheel.entries file) now) :
    halted .normalize now := by
    obtain ⟨decoded, kept, good, holds⟩ := holds
    exact ⟨kept, good, halted_normalize known decoded holds (.refl holds.plain)⟩
  have untold (now : World) (holds : furnished (Packaged request opened.wheel.entries file) now) :
    halted .metadata now := by
    obtain ⟨decoded, kept, good, holds⟩ := holds
    exact ⟨kept, good, halted_metadata known decoded holds fun _ _ => rfl⟩
  refine safe_furnish_steps orderly ready (fun now => Extracted request opened file before now.files)
    (fun _ => furnished (Contents request.archive opened.wheel.entries file))
    (fun _ => furnished (Packaged request opened.wheel.entries file))
    (fun _ _ => furnished (Packaged request opened.wheel.entries file)) halted extracted
    (fun now extracted => ?_) (fun _ now holds => ?_) (fun _ now holds => ?_) unretained
      (fun _ => unnormalized) fun _ => untold
  · refine (retaining now extracted).weaken fun outcome after ended =>
      ended.imp (fun _ _ holds => ?_) fun _ _ same => ?_
    · exact ⟨extracted.decoded known, holds⟩
    · exact ⟨file, whole, halted_provenance known bare extracted same⟩
  · obtain ⟨decoded, kept, good, holds⟩ := holds
    refine orderly.safe_of_host ready ((Packages.safe_normalize holds.plain).weaken fun outcome after ended =>
      ended.imp (fun _ _ empties => ?_) fun _ _ changes => ?_)
    · exact ⟨decoded, kept, good, furnished_of_empties holds known.faithful decoded empties⟩
    · exact ⟨kept, good, halted_normalize known decoded holds changes⟩
  · have reading : rules.Safe (fun _ after => furnished (Packaged request opened.wheel.entries file) after)
        (opened.wheel.readSummary request.pythonVersion).run now := by
      refine safe_of_readSummary holds fun path now holds => ⟨ready _ _, fun answer after replies => ?_⟩
      obtain ⟨rfl, -⟩ := (orderly _ _ _ _ replies).readFile
      exact holds
    refine reading.weaken fun outcome after holds => ?_
    cases outcome with
    | ok => exact holds
    | error => exact untold after holds

theorem safe_fillTarget_halts (orderly : rules.Orderly) (ready : ∀ wanted now, rules.permits wanted now)
    (known : opened.Known request)
    (straight : request.directory.Straight) (opens : ofContent request.archive (.ok file) = .ok opened.wheel)
    (bare : Bare request world.files.home mode file world.files) (fine : ByteArray → Prop) (whole : fine file)
    (retaining : ∀ now, Extracted request opened file world.files now.files → rules.Safe
      (Ends (fun _ after => ∃ kept, fine kept ∧ Furnished request world.files.home opened.wheel.entries mode file kept
        (Contents request.archive opened.wheel.entries file) after.files)
      fun _ after => ∀ location, location ≠ opened.retained.locate world.files.home →
        after.files.get? location = now.files.get? location)
      (retainArchive request opened.retained).run now) :
    rules.Safe (Ends
      (fun _ now => Decoded request.archive opened.wheel.entries file ∧ ∃ kept, fine kept ∧
        Furnished request world.files.home opened.wheel.entries mode file kept
          (Packaged request opened.wheel.entries file) now.files)
      (Halts fun step after => ∃ kept, fine kept ∧
        Halted request opened world.files.home mode file kept step after.files))
      (fillTarget request opened).run world := by
  refine safe_fillTarget_parts orderly ready (·.files = world.files) (·.files = world.files)
    (fun now => Extracted request opened file world.files now.files)
    (fun after => ∃ kept, fine kept ∧ Halted request opened world.files.home mode file kept .extract after.files) rfl
      (fun _ => id)
    (fun now same => ?_)
      (fun now extracted => safe_furnish_halts orderly ready known bare extracted fine whole retaining)
    (fun now same => ⟨file, whole, halted_extract known straight bare (.of_eq bare.plain same)⟩)
    fun cause _ halted => ⟨.extract, cause, rfl, halted⟩
  rw [← same] at bare ⊢
  refine (safe_extract_steps orderly ready known opens bare).failing fun _ after changes => ?_
  have halts : Halted request opened now.files.home mode file file .extract after.files :=
    halted_extract known straight bare changes
  exact ⟨file, whole, same ▸ halts⟩

/-- The last step fails with nothing but a draft of the summary. -/
theorem safe_finish_halts (orderly : rules.Orderly) (ready : ∀ wanted now, rules.permits wanted now)
    (known : opened.Known request)
    {noted : List Path} {summary : Summary} (decoded : Decoded request.archive opened.wheel.entries file)
    (furnished : Furnished request home opened.wheel.entries mode file kept
      (Packaged request opened.wheel.entries file) world.files) :
    rules.Safe (Ends (fun _ _ => True)
      (Halts fun step after => Halted request opened home mode file kept step after.files))
      (finish request noted summary).run world := by
  unfold finish
  refine Safe.andThen (safe_inStep .metadata ((orderly.safe_of_host ready (safe_writeSummary furnished.plain)).failing
    fun error _ ⟨_, drafts⟩ => ?_)) fun _ written _ =>
      Safe.andThen (Safe.lift (safe_any ready _ _)) fun _ _ _ => trivial
  exact halted_metadata known decoded furnished fun location apart => drafts.same (furnished.here ▸ apart)

/-- What is left when a run has stopped in a step, with what had become of the archive where it is kept. -/
def Stopped (request : Request) (before : FileSystem) (fine : Opened → ByteArray → ByteArray → Prop) (step : Step)
    (after : FileSystem) : Prop :=
  ∃ opened mode file kept, opened.From request before file ∧
    before.status true request.archive = .ok (request.archive.locate before.home, .file mode file) ∧
    fine opened file kept ∧ Halted request opened before.home mode file kept step after

theorem safe_run_halts (orderly : rules.Orderly) (ready : ∀ wanted now, rules.permits wanted now)
    (plain : world.files.Plain) (direct : request.Direct) (fine : Opened → ByteArray → ByteArray → Prop)
    (whole : ∀ opened file, fine opened file file)
    (retaining : ∀ opened mode file (begun now : World), opened.From request world.files file →
      begun.files.home = world.files.home →
      Bare request begun.files.home mode file begun.files →
      Extracted request opened file begun.files now.files → rules.Safe
        (Ends (fun _ after => ∃ kept, fine opened file kept ∧
          Furnished request begun.files.home opened.wheel.entries mode file kept
            (Contents request.archive opened.wheel.entries file) after.files)
          fun _ after => ∀ location, location ≠ opened.retained.locate begun.files.home →
            after.files.get? location = now.files.get? location)
        (retainArchive request opened.retained).run now) :
    rules.Safe (fun outcome after => ∀ step cause, outcome = .error (.partialFailure step cause) →
      Stopped request world.files fine step after.files) (run request).run world := by
  let stopped (error : InstallError) (after : World) : Prop := ∀ step cause, error = .partialFailure step cause →
    Stopped request world.files fine step after.files
  have early {error : InstallError} {after : World} (early : error.Early) : stopped error after := by
    rintro step cause rfl
    cases early
  have running : rules.Safe (Ends (fun _ _ => True) stopped) (run request).run world := by
    rw [run_eq]
    refine Safe.andThen ((safe_openWheel_orderly orderly ready).failing
      fun _ _ ⟨_, told⟩ => early told) fun opened now ⟨here, file, from_⟩ => ?_
    subst here
    obtain ⟨mode, found⟩ := from_.status plain
    have retained : ∃ path, request.retainedPath = .ok path := ⟨_, from_.known.retained⟩
    refine Safe.andThen ((safe_prepareTarget orderly plain (fun _ => direct.straight) retained fun wanted later _ =>
      ready wanted later).failing
      fun _ _ ⟨_, told⟩ => early told) fun noted begun prepared => ?_
    have bare := prepared.bare plain direct retained found
    have here := bare.here
    rw [← here] at bare
    have filling := safe_fillTarget_halts orderly ready from_.known direct.straight from_.wheel bare
      (fine opened file) (whole opened file)
      fun later extracted => retaining opened mode file begun later from_ here bare extracted
    refine Safe.andThen (filling.failing fun error _ halts => ?_)
      fun result filled ⟨decoded, kept, good, furnished⟩ => ?_
    · obtain ⟨step, cause, rfl, kept, good, halted⟩ := halts
      rintro _ _ ⟨⟩
      exact ⟨opened, mode, file, kept, from_, found, good, here ▸ halted⟩
    · refine (safe_finish_halts orderly ready from_.known decoded furnished).failing fun error _ halts => ?_
      obtain ⟨step, cause, rfl, halted⟩ := halts
      rintro _ _ ⟨⟩
      exact ⟨opened, mode, file, kept, from_, found, good, here ▸ halted⟩
  refine running.weaken fun outcome after ended step cause failed => ?_
  subst failed
  exact ended step cause rfl

end Whole

/-- The archive is whole where it is kept, or it was there already and is lost. -/
def Spoilt (request : Request) (home : Location) (opened : Opened) (file kept : ByteArray) : Prop :=
  kept = file ∨ kept = .empty ∧ opened.retained.locate home = request.archive.locate home

theorem safe_retainArchive_spoilt (known : opened.Known request) (straight : request.directory.Straight)
    (bare : Bare request before.home mode file before) (extracted : Extracted request opened file before world.files) :
    host.Safe (Ends
      (fun _ after => ∃ kept, Spoilt request before.home opened file kept ∧
        Furnished request before.home opened.wheel.entries mode file kept
          (Contents request.archive opened.wheel.entries file) after.files)
      fun _ after => ∀ location, location ≠ opened.retained.locate before.home →
        after.files.get? location = world.files.get? location)
      (retainArchive request opened.retained).run world := by
  refine (safe_retainArchive_orderly orderly_host (fun _ _ => trivial) extracted.changes.plain).weaken
    fun outcome after ended =>
    ended.imp (fun _ _ kept => ?_) fun _ _ copying _ apart => copying.same (extracted.changes.home ▸ apart)
  rcases kept with ⟨source, same⟩ | ⟨other, bytes, found, replaces⟩
  · exact ⟨file, .inl rfl, same ▸ furnished_of_already known straight bare extracted source⟩
  · obtain ⟨kept, furnished⟩ := furnished_of_copied known straight bare extracted found replaces
    refine ⟨kept, furnished.spoiled.imp_right fun ⟨empty, name, named, same⟩ => ⟨empty, ?_⟩, furnished⟩
    obtain ⟨given, also, located⟩ := known.locate_retained before.home
    cases named.symm.trans also
    rw [located, same]

theorem safe_retainArchive_whole {canonical : Path} (known : opened.Known request)
    (straight : request.directory.Straight) (plain : world.files.Plain)
    (canonizes : world.files.canonicalize request.archive = .ok canonical) {begun now : World}
    (here : begun.files.home = world.files.home) (bare : Bare request begun.files.home mode file begun.files)
    (extracted : Extracted request opened file begun.files now.files) :
    (steady (request.ArchiveInside world.files.home)).Safe (Ends
      (fun _ after => ∃ kept, kept = file ∧ Furnished request begun.files.home opened.wheel.entries mode file kept
        (Contents request.archive opened.wheel.entries file) after.files)
      fun _ after => ∀ location, location ≠ opened.retained.locate begun.files.home →
        after.files.get? location = now.files.get? location)
      (retainArchive request opened.retained).run now := by
  have still := extracted.changes.plain
  have discerns (source : request.SourceAt now.files opened.retained) : request.ArchiveInside world.files.home :=
    here ▸ extracted.changes.home ▸ known.archiveInside still source
  refine (safe_retainArchive still discerns).weaken fun outcome after ended => ended.imp (fun _ _ retains => ?_)
    fun _ _ failed _ apart => failed.2.1.same (extracted.changes.home ▸ apart)
  cases retains with
  | already source => exact ⟨file, rfl, furnished_of_already known straight bare extracted source⟩
  | copied unrecognized found replaces anchored =>
    obtain ⟨kept, furnished⟩ := furnished_of_copied known straight bare extracted found replaces
    have canonizes := canonicalize_of_status plain still (extracted.changes.home.trans here) canonizes found
    have apart := apart_of_copied still canonizes unrecognized found anchored
    refine ⟨kept, furnished.spoiled.resolve_right fun ⟨_, name, named, same⟩ => apart ?_, furnished⟩
    obtain ⟨given, also, located⟩ := known.locate_retained now.files.home
    cases named.symm.trans also
    rw [located, extracted.changes.home, same]

/-- Wherever a run stops, the stages before that step are complete and those after it have not begun; but if paths
cannot be made canonical, the archive may be lost when it is where it is to be kept. -/
theorem run_halts (world : World) (plain : world.files.Plain) (direct : request.Direct) :
    host.Safe (fun outcome after => ∀ step cause, outcome = .error (.partialFailure step cause) →
      Stopped request world.files (Spoilt request world.files.home) step after.files) (run request).run world ∧
    ∀ canonical, world.files.canonicalize request.archive = .ok canonical →
      (steady (request.ArchiveInside world.files.home)).Safe
      (fun outcome after => ∀ step cause, outcome = .error (.partialFailure step cause) →
        Stopped request world.files (fun _ file kept => kept = file) step after.files) (run request).run world := by
  refine ⟨safe_run_halts orderly_host (fun _ _ => trivial) plain direct _ (fun _ _ => .inl rfl) ?_,
    fun canonical canonizes =>
    safe_run_halts orderly_steady (fun _ _ => trivial) plain direct _ (fun _ _ => rfl) ?_⟩
  all_goals intro opened mode file begun now from_ here bare extracted
  · exact here ▸ safe_retainArchive_spoilt from_.known direct.straight bare extracted
  · exact safe_retainArchive_whole from_.known direct.straight plain canonizes here bare extracted

/-- An installation that stops in the last step. -/
theorem run_halts_lacking :
    firstWorld.files.Plain ∧ lackingRequest.Direct ∧
      firstWorld.files.canonicalize lackingRequest.archive = .ok ⟨"/d-1-py3-none-any.whl"⟩ ∧
      host.Runs (run lackingRequest).run firstWorld (.error lackingError) failedWorld ∧
      Stopped lackingRequest firstWorld.files (Spoilt lackingRequest firstWorld.files.home)
        .metadata failedWorld.files ∧
      Stopped lackingRequest firstWorld.files (fun _ file kept => kept = file) .metadata failedWorld.files := by
  have plain : firstWorld.files.Plain := ⟨by decide, rfl⟩
  have direct : lackingRequest.Direct := by constructor <;> decide
  have known : firstWorld.files.canonicalize lackingRequest.archive = .ok ⟨"/d-1-py3-none-any.whl"⟩ := by decide +kernel
  -- For any request first: the program would be run otherwise.
  have whole {request : Request} {world after : World} {canonical : Path} {step : Step} {cause : StepError}
      (plain : world.files.Plain) (direct : request.Direct)
      (known : world.files.canonicalize request.archive = .ok canonical)
      (ran : (run request).run.run World.perform world = (.error (.partialFailure step cause), after)) :
      host.Runs (run request).run world (.error (.partialFailure step cause)) after ∧
        Stopped request world.files (Spoilt request world.files.home) step after.files ∧
        Stopped request world.files (fun _ file kept => kept = file) step after.files := by
    obtain ⟨anyway, surely⟩ := run_halts world plain direct
    exact ⟨runs_of_run host_perform ran, anyway.runs (runs_of_run host_perform ran) step cause rfl,
      (surely canonical known).runs (runs_of_run (steady_perform _) ran) step cause rfl⟩
  exact ⟨plain, direct, known, whole plain direct known run_lacking⟩

end Install
end WheelInstaller
