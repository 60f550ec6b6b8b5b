import WheelInstaller.Proofs.Host.Rules
import WheelInstaller.Proofs.Install.Stages
import WheelInstaller.Proofs.Packages.Initializer
import WheelInstaller.Proofs.Placement

/-! What an installation asks a host for, stage by stage. Names of the archive only become part of paths
below the directory of the packages; the target itself only gets names that the installation chose. -/

namespace WheelInstaller

open Host

variable {handle : Path → OpenFile → Prop} {ε : Type}

/-! ### Giving initializers -/

namespace Packages

/-- Giving initializers below a root. -/
def Initializing (root : Path) : Request → Prop
  | .write path _ => ∃ names, root.Extends (names ++ [initializerName]) path
  | request => request.Reads

variable {root : Path}

theorem reads_initializing {request : Request} (reads : request.Reads) : Initializing root request := by
  cases request <;> first | exact reads | exact reads.elim

/-- The names that a survey tells. -/
def Survey.Proper (survey : Survey) : Prop :=
  (∀ name ∈ survey.listing.directories, ProperName name) ∧ ∀ name ∈ survey.inner, ProperName name

theorem tries_survey {seen : Survey} (proper : seen.Proper) (children : List Path) :
    Tries handle (Initializing root) Survey.Proper (survey seen children) := by
  induction children generalizing seen with
  | nil => exact Tries.returned proper
  | cons child rest ih =>
    unfold survey
    split
    next => exact ih proper
    next name named =>
      have named := (Path.fileName?_eq_some named).1
      refine Tries.next (Tries.lift (Asks.request (reads_initializing trivial) fun _ _ => trivial))
        fun directory => ?_
      split
      · apply ih
        constructor
        · simpa [named] using proper.1
        · dsimp only
          split
          · exact proper.2
          · simpa [named, or_imp, forall_and] using proper.2
      · exact ih proper

theorem tries_scanFrom {depth : Nat} {relative : Path} {names : List String} (here : Path.origin.Extends names relative)
    {snapshot : Snapshot} (proper : snapshot.Proper) :
    Tries handle (Initializing root) Snapshot.Proper (scanFrom root depth relative snapshot) := by
  induction depth generalizing relative names snapshot with
  | zero => exact Tries.returned proper
  | succ depth ih =>
    unfold scanFrom
    refine Tries.next
      (Tries.asked (Asks.request (reads_initializing trivial) fun _ _ _ _ => trivial)) fun children => ?_
    refine Tries.bind (tries_survey (by simp [Survey.Proper]) children) fun found survey => ?_
    have updated := proper.update here survey.1
    have inner : ∀ name ∈ found.inner.reverse, ProperName name := fun name member =>
      survey.2 name (List.mem_reverse.mp member)
    refine Rules.Safe.foldlM (fun _ _ (found : Snapshot) _ => found.Proper) updated
      fun _ name _ snapshot _ cut proper => ?_
    exact ih (here.div (inner name (by simp [cut]))) proper

theorem tries_writeAll {paths : List Path}
    (placed : ∀ path ∈ paths, ∃ names, Path.origin.Extends (names ++ [initializerName]) path) :
    Tries handle (Initializing root) (fun _ => True) (writeAll root paths) := by
  induction paths with
  | nil => exact Tries.returned trivial
  | cons relative rest ih =>
    obtain ⟨names, extends_⟩ := placed relative (by simp)
    unfold writeAll
    refine Tries.next (Tries.asked (Asks.request ⟨names, Path.extends_join extends_⟩ fun _ _ _ _ => trivial))
      fun _ => ?_
    refine Tries.bind (ih fun path member => placed path (by simp [member])) fun _ _ => ?_
    exact Tries.returned trivial

theorem extends_of_mem_plan? {snapshot : Snapshot} (proper : snapshot.Proper) {implicit : Bool} {paths : List Path}
    (planned : snapshot.plan? implicit = some paths) {path : Path} (member : path ∈ paths) :
    ∃ names, Path.origin.Extends (names ++ [initializerName]) path := by
  cases implicit with
  | true =>
    cases planned
    cases member
  | false =>
    obtain ⟨_, known, exactly, spelled⟩ := Snapshot.exists_plan? proper
    cases planned.symm.trans known
    obtain ⟨names, here⟩ := spelled path member
    obtain ⟨target, rfl, -⟩ := (exactly names).mp ⟨path, member, here⟩
    exact ⟨target, here⟩

theorem tries_normalize {implicit : Bool} :
    Tries handle (Initializing root) (fun _ => True) (normalize root implicit) := by
  unfold normalize
  split
  · exact Tries.returned trivial
  · refine Tries.bind (tries_scanFrom (Path.Extends.refl Path.origin) Snapshot.Proper.empty) fun snapshot proper => ?_
    apply tries_writeAll
    cases planned : snapshot.plan? false with
    | none => simp
    | some paths => exact fun path member => extends_of_mem_plan? proper planned member

end Packages

namespace Install

/-! ### Extraction -/

/-- Carrying out a plan below a root. -/
def Extracting (handle : Path → OpenFile → Prop) (root : Path) (plan : Plan) : Host.Request → Prop
  | .createDirectories path => path = root ∨ path ∈ plan.directories
  | .createFile path | .setMode path _ => ∃ entry, (entry, path) ∈ plan.files
  | .append file _ => ∃ entry path, (entry, path) ∈ plan.files ∧ handle path file
  | request => request.Reads

section Extraction

variable {root archive : Path} {plan : Plan}

theorem reads_extracting {request : Host.Request} (reads : request.Reads) : Extracting handle root plan request := by
  cases request <;> first | exact reads | exact reads.elim

theorem tries_checkCancelled {allowed : Host.Request → Prop} (permitted : allowed .isCancelled) :
    Tries handle allowed (fun _ => True) checkCancelled := by
  unfold checkCancelled
  refine Tries.next (Tries.lift (Asks.request permitted fun _ _ => trivial)) fun cancelled => ?_
  split
  · exact Tries.thrown
  · exact Tries.returned trivial

theorem tries_makeDirectories {directories : List Path} (planned : directories ⊆ plan.directories) :
    Tries handle (Extracting handle root plan) (fun _ => True) (makeDirectories directories) := by
  induction directories with
  | nil => exact Tries.returned trivial
  | cons directory rest ih =>
    obtain ⟨first, others⟩ := List.cons_subset.mp planned
    unfold makeDirectories
    refine Tries.next (Tries.wrapped (Tries.asked (Asks.request (.inr first) fun _ _ _ _ => trivial))) fun _ => ?_
    exact ih others

theorem tries_writeChunks {entry : Entry} {destination : Path} {file : OpenFile}
    (planned : (entry, destination) ∈ plan.files) (opened : handle destination file) (chunks : List ByteArray) :
    Tries handle (Extracting handle root plan) (fun _ => True) (writeChunks destination file chunks) := by
  induction chunks with
  | nil => exact Tries.returned trivial
  | cons chunk rest ih =>
    unfold writeChunks
    refine Tries.next (Tries.wrapped (Tries.asked (Asks.request ?_ fun _ _ _ _ => trivial))) fun _ => ih
    exact ⟨entry, destination, planned, opened⟩

theorem asks_currentContent {allowed : Host.Request → Prop} (permitted : allowed (.readFile archive))
    (index : Container.Index) : Asks handle allowed (fun _ => True) (currentContent archive index) := by
  unfold currentContent
  refine Asks.next (Asks.request permitted fun _ _ => trivial) fun answer => ?_
  split <;> exact trivial

theorem tries_copyContent {entry : Entry} {destination : Path} {file : OpenFile} (stream : EntryStream)
    (planned : (entry, destination) ∈ plan.files) (opened : handle destination file) :
    Tries handle (Extracting handle root plan) (fun _ => True) (copyContent stream destination file) := by
  unfold copyContent
  refine Tries.next (tries_writeChunks planned opened _) fun _ => ?_
  refine Tries.next (Tries.settled fun _ _ => trivial) fun _ => ?_
  refine Tries.next (Tries.wrapped (Tries.asked (Asks.request (reads_extracting trivial) fun _ _ _ _ => trivial)))
    fun _ => ?_
  exact Tries.returned trivial

theorem tries_extractFile {index : Except ArchiveError Container.Index} {entry : Entry} {destination : Path}
    (planned : (entry, destination) ∈ plan.files) :
    Tries handle (Extracting handle root plan) (fun _ => True) (extractFile archive index entry destination) := by
  unfold extractFile
  refine Tries.next (tries_checkCancelled (reads_extracting trivial)) fun _ => ?_
  refine Tries.next (Tries.settled fun _ _ => trivial) fun index => ?_
  refine Tries.next (Tries.lift (asks_currentContent (reads_extracting trivial) index)) fun content => ?_
  refine Tries.next (Tries.settled fun _ _ => trivial) fun found => ?_
  have opening : Tries handle (Extracting handle root plan) (handle destination)
      (attemptAs StepError.host (createFile destination)) := by
    refine Tries.wrapped (Tries.asked (Asks.request ⟨entry, planned⟩ ?_))
    rintro answer honest file rfl
    exact honest
  refine Tries.bind opening fun file opened => ?_
  refine Tries.next (Tries.lift (asks_currentContent (reads_extracting trivial) index)) fun content => ?_
  refine Tries.next (tries_copyContent _ planned opened) fun size => ?_
  refine Tries.next (Tries.wrapped (Tries.asked (Asks.request ⟨entry, planned⟩ fun _ _ _ _ => trivial))) fun _ => ?_
  exact Tries.returned trivial

theorem tries_extractFiles {index : Except ArchiveError Container.Index} {files : List (Entry × Path)}
    (planned : files ⊆ plan.files) :
    Tries handle (Extracting handle root plan) (fun _ => True) (extractFiles archive index files) := by
  induction files with
  | nil => exact Tries.returned trivial
  | cons file rest ih =>
    obtain ⟨first, others⟩ := List.cons_subset.mp planned
    unfold extractFiles
    refine Tries.next (tries_extractFile first) fun _ => ?_
    refine Tries.next (ih others) fun _ => ?_
    exact Tries.returned trivial

theorem tries_extractShares {shares : List (List (Entry × Path))} (planned : ∀ share ∈ shares, share ⊆ plan.files) :
    Tries handle (Extracting handle root plan) (fun _ => True) (extractShares archive shares) := by
  induction shares with
  | nil => exact Tries.returned trivial
  | cons share rest ih =>
    unfold extractShares
    refine Tries.next (Tries.lift (Asks.request (reads_extracting trivial) fun _ _ => trivial)) fun content => ?_
    refine Tries.next (tries_extractFiles (planned share (by simp))) fun _ => ?_
    refine Tries.next (ih fun share member => planned share (by simp [member])) fun _ => ?_
    exact Tries.returned trivial

theorem flatten_shareOut (workers : Nat) (files : List (Entry × Path)) : (shareOut workers files).flatten = files := by
  fun_induction shareOut workers files with
  | case1 => simp
  | case2 => simp
  | case3 workers files _ _ half first second =>
    rw [List.flatten_append, first, second, List.take_append_drop]

theorem tries_carryOut {workers : Nat} :
    Tries handle (Extracting handle root plan) (fun _ => True) (do
      makeDirectories plan.directories
      extractShares archive (shareOut workers plan.files)) := by
  refine Tries.next (tries_makeDirectories (List.Subset.refl _)) fun _ => ?_
  refine tries_extractShares fun share shared file member => ?_
  rw [← flatten_shareOut workers plan.files]
  exact List.mem_flatten.mpr ⟨share, shared, member⟩

theorem tries_extract {wheel : Wheel} {jobs : Nat} :
    Tries handle (Extracting handle root plan) (fun _ => True) (extract wheel plan root jobs) := by
  unfold extract
  exact Tries.next (Tries.wrapped (Tries.asked (Asks.request (.inl rfl) fun _ _ _ _ => trivial))) fun _ =>
    tries_carryOut

end Extraction

/-! ### The other stages -/

/-- Preparing the target. -/
def Preparing (request : Request) : Host.Request → Prop
  | .createDirectories path => path = request.directory
  | .removeFile path | .removeDirectory path => ∃ name, request.directory.Extends [name] path
  | wanted => wanted.Looks

/-- Keeping a copy of the archive. -/
def Retaining (request : Request) : Host.Request → Prop
  | .copy source target => source = request.archive ∧ request.retainedPath = .ok target
  | wanted => wanted.Looks

/-- Writing the summary under another name, and giving it its own. -/
def Summarizing (request : Request) : Host.Request → Prop
  | .write path _ => path = request.summaryDraft
  | .rename source target => source = request.summaryDraft ∧ target = request.summaryPath
  | wanted => wanted.Looks

/-- Filling the prepared target as planned. -/
def Filling (request : Request) (handle : Path → OpenFile → Prop) (plan : Plan) (wanted : Host.Request) : Prop :=
  Extracting handle request.sitePackages plan wanted ∨ Retaining request wanted ∨
    Packages.Initializing request.sitePackages wanted

variable {request : Request}

theorem looks_preparing {wanted : Host.Request} (looks : wanted.Looks) : Preparing request wanted := by
  cases wanted <;> first | exact looks | exact looks.elim

theorem looks_retaining {wanted : Host.Request} (looks : wanted.Looks) : Retaining request wanted := by
  cases wanted <;> first | exact looks | exact looks.elim

theorem looks_filling {plan : Plan} {wanted : Host.Request} (looks : wanted.Looks) :
    Filling request handle plan wanted :=
  .inr (.inl (looks_retaining looks))

theorem looks_summarizing {wanted : Host.Request} (looks : wanted.Looks) : Summarizing request wanted := by
  cases wanted <;> first | exact looks | exact looks.elim

theorem properName_sitePackages : ProperName "site-packages" := by
  decide

theorem properName_summary : ProperName Summary.fileName := by
  decide

theorem properName_draft : ProperName s!"{Summary.fileName}.tmp" := by
  decide

theorem extends_sitePackages : request.directory.Extends ["site-packages"] request.sitePackages :=
  (Path.Extends.refl request.directory).div properName_sitePackages

theorem extends_summary : request.directory.Extends [Summary.fileName] request.summaryPath :=
  (Path.Extends.refl request.directory).div properName_summary

theorem extends_draft : request.directory.Extends [s!"{Summary.fileName}.tmp"] request.summaryDraft :=
  (Path.Extends.refl request.directory).div properName_draft

theorem archiveName_eq_ok {name : String} (named : request.archiveName = .ok name) :
    request.archive.fileName? = some name ∧
      (Path.extensionOfName? name).any (fun found => Text.sameIgnoringCase found.toList "whl".toList) = true := by
  unfold Request.archiveName at named
  split at named
  · cases named
  next found =>
    dsimp only at named
    split at named
    next wheel =>
      cases named
      exact ⟨found, wheel⟩
    next => cases named

theorem archiveName_apart {name : String} (named : request.archiveName = .ok name) :
    name ≠ "site-packages" ∧ name ≠ Summary.fileName ∧ name ≠ s!"{Summary.fileName}.tmp" := by
  have wheel := (archiveName_eq_ok named).2
  refine ⟨?_, ?_, ?_⟩ <;> rintro rfl <;> revert wheel <;> decide

theorem retainedPath_eq_ok {path : Path} (retained : request.retainedPath = .ok path) :
    ∃ name, request.archiveName = .ok name ∧ ProperName name ∧ path = request.directory / name := by
  unfold Request.retainedPath at retained
  cases named : request.archiveName with
  | error error =>
    rw [named] at retained
    cases retained
  | ok name =>
    rw [named] at retained
    cases retained
    exact ⟨name, rfl, (Path.fileName?_eq_some (archiveName_eq_ok named).1).1, rfl⟩

theorem extends_retained {path : Path} (retained : request.retainedPath = .ok path) :
    ∃ name, request.directory.Extends [name] path := by
  obtain ⟨name, -, proper, rfl⟩ := retainedPath_eq_ok retained
  exact ⟨name, (Path.Extends.refl request.directory).div proper⟩

section Looking

variable {allowed : Host.Request → Prop} (canonical : ∀ path, allowed (.canonicalize path))
include canonical

theorem asks_sourceIdentity : Asks handle allowed (fun _ => True) (sourceIdentity request) := by
  unfold sourceIdentity
  refine Asks.next (Asks.request (canonical _) fun _ _ => trivial) fun answer => ?_
  split <;> exact trivial

theorem asks_isSource (source : Option Path) (path : Path) : Asks handle allowed (fun _ => True)
    (isSource source path) := by
  unfold isSource
  split
  · exact trivial
  · refine Asks.next (Asks.request (canonical _) fun _ _ => trivial) fun answer => ?_
    split <;> exact trivial

theorem asks_withoutSource (source : Option Path) (paths : List Path) :
    Asks handle allowed (fun kept => kept ⊆ paths) (withoutSource source paths) := by
  induction paths with
  | nil => exact List.nil_subset _
  | cons path rest ih =>
    unfold withoutSource
    refine Asks.bind (asks_isSource canonical source path) fun isArchive _ => ?_
    refine Asks.bind ih fun others inside => ?_
    change (if isArchive = true then others else path :: others) ⊆ path :: rest
    split
    · exact List.Subset.trans inside (List.subset_cons_self path rest)
    · exact List.cons_subset_cons path inside

end Looking

section Reading

variable {allowed : Host.Request → Prop} (reading : ∀ path, allowed (.readFile path))
include reading

theorem tries_readMember (wheel : Wheel) (recorded : String) :
    Tries handle allowed (fun _ => True) (wheel.readMember recorded) := by
  unfold Wheel.readMember
  split
  · exact Tries.returned trivial
  · refine Tries.next (Tries.asked ?_) fun index => ?_
    · exact Asks.next (Asks.request (reading _) fun _ _ => trivial) fun _ _ _ => trivial
    · exact Tries.next (Tries.settled fun _ _ => trivial) fun _ => Tries.returned trivial

theorem tries_readSummary (wheel : Wheel) (version : String) :
    Tries handle allowed (fun _ => True) (wheel.readSummary version) := by
  unfold Wheel.readSummary
  refine Tries.next ?_ fun _ => ?_
  · unfold Wheel.readDistribution
    refine Tries.bind (Tries.wrapped (tries_readMember reading wheel _)) fun text _ => ?_
    split
    · exact Tries.thrown
    · split
      · exact Tries.thrown
      · exact Tries.returned trivial
  · refine Tries.next ?_ fun _ => Tries.returned trivial
    unfold Wheel.readScripts
    refine Tries.bind (Tries.wrapped (tries_readMember reading wheel _)) fun text _ => ?_
    split
    · exact Tries.returned trivial
    · split
      · exact Tries.thrown
      · exact Tries.returned trivial

end Reading

theorem safe_of_readSummary {σ : Type} {rules : Rules σ} {invariant : σ → Prop} {state : σ}
    {wheel : Wheel} {version : String} (holds : invariant state)
    (reads : ∀ path state, invariant state → rules.permits (.readFile path) state ∧
      ∀ answer after, rules.replies (.readFile path) state answer after → invariant after) :
    rules.Safe (fun _ after => invariant after) (wheel.readSummary version).run state := by
  have tries : Tries (fun _ _ => True) (fun wanted => ∃ path, wanted = .readFile path) (fun _ => True)
      (wheel.readSummary version) := tries_readSummary (fun path => ⟨path, rfl⟩) wheel version
  refine (Rules.Safe.carry invariant tries holds fun wanted now permitted still => ?_).weaken fun _ _ ended => ended.2
  obtain ⟨path, rfl⟩ := permitted
  obtain ⟨allowed, kept⟩ := reads path now still
  exact ⟨allowed, fun answer after replies => ⟨trivial, kept answer after replies⟩⟩

theorem tries_removeAll {paths : List Path} (children : ∀ path ∈ paths, ∃ name, request.directory.Extends [name] path) :
    Tries handle (Preparing request) (fun _ => True) (removeAll paths) := by
  induction paths with
  | nil => exact Tries.returned trivial
  | cons path rest ih =>
    have child := children path (by simp)
    have others := ih fun path member => children path (by simp [member])
    unfold removeAll
    refine Tries.next (Tries.lift (Asks.request (looks_preparing trivial) fun _ _ => trivial))
      fun directory => ?_
    split <;>
      exact Tries.next (Tries.wrapped (Tries.asked (Asks.request child fun _ _ _ _ => trivial)))
        fun _ => others

theorem tries_clearTarget {existing : List Path}
    (children : ∀ path ∈ existing, ∃ name, request.directory.Extends [name] path) :
    Tries handle (Preparing request) (fun _ => True) (clearTarget request existing) := by
  have others : Tries handle (Preparing request) (fun _ => True)
      (removeAll (existing.filter fun path => !path.same request.summaryPath)) :=
    tries_removeAll fun path member => children path (List.mem_filter.mp member).1
  unfold clearTarget
  split
  · exact Tries.next
      (Tries.wrapped (Tries.asked (Asks.request ⟨_, extends_summary⟩ fun _ _ _ _ => trivial))) fun _ => others
  · exact others

theorem tries_prepareTarget : Tries handle (Preparing request) (fun _ => True) (prepareTarget request) := by
  unfold prepareTarget
  refine Tries.next (Tries.lift (Asks.request (looks_preparing trivial) fun _ _ => trivial))
    fun exists_ => ?_
  split
  · refine Tries.next
      (Tries.wrapped (Tries.wrapped (Tries.asked (Asks.request rfl fun _ _ _ _ => trivial)))) fun _ => ?_
    refine Tries.next (Tries.lift (Asks.request (looks_preparing trivial) fun _ _ => trivial))
      fun _ => Tries.returned trivial
  · refine Tries.next (Tries.lift (Asks.request (looks_preparing trivial) fun _ _ => trivial))
      fun directory => ?_
    split
    · exact Tries.thrown
    · refine Tries.bind (Tries.lift (asks_sourceIdentity fun _ => looks_preparing trivial)) fun source _ => ?_
      have listing : Tries handle (Preparing request)
          (fun children => ∀ child ∈ children, ∃ name, request.directory.Extends [name] child)
          (inTarget request (attemptAs .host (readDirectory request.directory))) := by
        refine Tries.wrapped (Tries.wrapped (Tries.asked (Asks.request (looks_preparing trivial) ?_)))
        rintro answer honest children rfl
        exact honest
      refine Tries.bind listing fun children listed => ?_
      · refine Tries.bind (Tries.lift (asks_withoutSource (fun _ => looks_preparing trivial) source children))
          fun existing inside => ?_
        split
        · exact Tries.returned trivial
        · split
          · exact Tries.thrown
          · refine Tries.bind (Tries.wrapped (tries_clearTarget fun path member => listed path (inside member)))
              fun _ _ => Tries.returned trivial

theorem tries_retainArchive {destination : Path} (retained : request.retainedPath = .ok destination) :
    Tries handle (Retaining request) (fun _ => True) (retainArchive request destination) := by
  unfold retainArchive
  refine Tries.bind (Tries.lift (asks_sourceIdentity fun _ => looks_retaining trivial)) fun source _ => ?_
  refine Tries.bind (Tries.lift (asks_isSource (fun _ => looks_retaining trivial) source destination))
    fun isArchive _ => ?_
  split
  · exact Tries.returned trivial
  · refine Tries.next (Tries.lift (Asks.request (looks_retaining trivial) fun _ _ => trivial))
      fun _ => ?_
    refine Tries.next
      (Tries.wrapped (Tries.asked (Asks.request ⟨rfl, retained⟩ fun _ _ _ _ => trivial)))
      fun _ => Tries.returned trivial

theorem tries_writeSummary {summary : Summary} :
    Tries handle (Summarizing request) (fun _ => True) (writeSummary request summary) := by
  unfold writeSummary
  refine Tries.next (Tries.lift (Asks.request (looks_summarizing trivial) fun _ _ => trivial))
    fun _ => ?_
  refine Tries.next (Tries.wrapped (Tries.asked (Asks.request rfl fun _ _ _ _ => trivial)))
    fun _ => ?_
  refine Tries.next (Tries.wrapped (Tries.asked (Asks.request ⟨rfl, rfl⟩ fun _ _ _ _ => trivial)))
    fun _ => ?_
  refine Tries.next (Tries.lift (Asks.request (looks_summarizing trivial) fun _ _ => trivial))
    fun _ => Tries.returned trivial

theorem asks_commit {allowed : Host.Request → Prop} (looks : ∀ wanted : Host.Request, wanted.Looks → allowed wanted)
    (paths : List Path) : Asks handle allowed (fun _ => True) (commit paths) := by
  induction paths with
  | nil => exact trivial
  | cons path rest ih =>
    unfold commit
    exact Asks.next (Asks.request (looks _ trivial) fun _ _ => trivial) fun _ => ih

theorem tries_openWheel : Tries handle Host.Request.Looks (Opened.Known request) (openWheel request) := by
  let heard (_ : Except OsError ByteArray) (_ : Unit) : Prop := True
  have told (answer : Except OsError ByteArray) (after : Unit)
      (_ : (asking handle Host.Request.Looks).replies (.readFile request.archive) () answer after) :
      heard answer after := trivial
  refine (safe_openWheel trivial told).weaken fun outcome _ ended => ?_
  exact ended.imp (fun _ _ ⟨known, _⟩ => known) fun _ _ _ => trivial

theorem Opened.Known.faithful {opened : Opened} (known : opened.Known request) :
    opened.plan.Faithful request.sitePackages opened.wheel.entries :=
  Plan.faithful_of_build known.planned

theorem tries_fillTarget {opened : Opened} (known : opened.Known request) :
    Tries handle (Filling request handle opened.plan) (fun _ => True) (fillTarget request opened) := by
  have cancelled {step : Step} :
      Tries handle (Filling request handle opened.plan) (fun _ => True) (inStep step checkCancelled) :=
    Tries.wrapped (tries_checkCancelled (looks_filling trivial))
  unfold fillTarget
  refine Tries.next cancelled fun _ => ?_
  refine Tries.next (Tries.lift (Asks.request (looks_filling trivial) fun _ _ => trivial)) fun _ => ?_
  refine Tries.next (Tries.wrapped (tries_extract.allowing fun _ => .inl)) fun _ => ?_
  refine Tries.next cancelled fun _ => ?_
  refine Tries.next (Tries.wrapped ((tries_retainArchive known.retained).allowing fun _ => .inr ∘ .inl)) fun _ => ?_
  refine Tries.next cancelled fun _ => ?_
  refine Tries.next (Tries.wrapped (Tries.wrapped (Packages.tries_normalize.allowing fun _ => .inr ∘ .inr))) fun _ => ?_
  refine Tries.next cancelled fun _ => ?_
  refine Tries.next (Tries.wrapped (Tries.wrapped (tries_readSummary (fun _ => looks_filling trivial) _ _))) fun _ => ?_
  exact Tries.returned trivial

theorem tries_finish {noted : List Path} {summary : Summary} :
    Tries handle (Summarizing request) (fun _ => True) (finish request noted summary) := by
  unfold finish
  refine Tries.next (Tries.wrapped tries_writeSummary) fun written => ?_
  refine Tries.next (Tries.lift (asks_commit (fun _ => looks_summarizing) _)) fun _ => ?_
  exact Tries.returned trivial

end Install

end WheelInstaller
