import WheelInstaller.Proofs.Install.Untouched

/-! The archive survives its installation. Clearing the target spares what it recognizes as the archive, directly in the
target; and no stage after that writes to where the archive is. -/

namespace WheelInstaller

namespace FileSystem

variable {files : FileSystem} {directory path : Path} {location : Location} {name : String} {node : Node}

theorem clean_of_absolutePath (checked : (absolutePath location).check = .ok ()) (member : name ∈ location) :
    '\x00' ∉ name.toList := by
  intro inside
  have letters : (absolutePath location).text.toList = '/' :: Text.joinWith '/' (location.map String.toList) := by
    simp [absolutePath, Text.joinWith_eq]
  refine (Path.check_eq_ok.mp checked).1 ?_
  rw [letters]
  exact List.mem_cons_of_mem _ (Text.mem_joinWith (List.mem_map_of_mem member) inside)

theorem checkGiven_div (given : directory.check = .ok ()) (proper : ProperName name) (clean : '\x00' ∉ name.toList) :
    (directory / name).checkGiven = .ok () := by
  obtain ⟨letters, text, same⟩ := Path.text_div (Path.filled_of_check given) proper
  have pure : '\x00' ∉ letters := by
    intro inside
    refine (Path.check_eq_ok.mp given).1 ?_
    rcases same with same | same <;> simp [same, inside]
  refine Path.checkGiven_eq_ok.mpr ⟨by simp [text, pure, clean], fun empty => ?_⟩
  simp [empty] at text

/-- What is directly in a directory that is there can be made canonical, if its location has a path at all. -/
theorem canonicalize_div (plain : files.Plain) (there : files.isDirectory directory = true) (proper : ProperName name)
    (short : name.utf8ByteSize ≤ Path.longestName)
    (found : files.get? (directory.locate files.home ++ [name]) = some node)
    (checked : (absolutePath (directory.locate files.home ++ [name])).check = .ok ()) :
    files.canonicalize (directory / name) = .ok (absolutePath (directory.locate files.home ++ [name])) := by
  obtain ⟨given, leads⟩ := leads_of_isDirectory plain there
  have filled := Path.filled_of_check given
  have named : Named name := ⟨proper.notCurrent, proper.notParent, short⟩
  have here : (directory / name).locate files.home = directory.locate files.home ++ [name] := Path.locate_div proper
  refine (canonicalize_eq_ok plain).mpr ⟨checkGiven_div given proper ?_, checked, by rw [here], node, ?_⟩
  · exact clean_of_absolutePath checked (by simp)
  · have same : files.origin (directory / name) = files.origin directory := by
      simp only [origin, Path.isAbsolute_div filled proper]
    rw [Path.strictSteps_div filled proper, same, here]
    exact leads.append (.down leads.occupied.2 named (by simp [found]) (.here found))

end FileSystem

namespace Install

open Host Host.Rules FileSystem

variable {request : Request} {opened : Opened} {world : World} {before files after : FileSystem} {location : Location}
variable {name : String} {node : Node} {certain : Prop}

/-! ### Clearing spares the archive -/

/-- What clearing the target takes away: all of it but the archive. -/
def Request.Discards (request : Request) (files : FileSystem) (location : Location) : Prop :=
  ∃ name, request.directory.locate files.home ++ [name] <+: location ∧
  ¬ request.SourceAt files (request.directory / name)

theorem Request.discards_of_existing {existing : List Path} (known : Existing request files existing)
    (apart : ∀ path ∈ existing, ¬ request.SourceAt files path) {path : Path} (member : path ∈ existing)
    (below : path.locate files.home <+: location) : request.Discards files location := by
  obtain ⟨name, proper, rfl⟩ := known.listed path member
  rw [Path.locate_div proper] at below
  exact ⟨name, below, apart _ member⟩

theorem safe_clearTarget_discards {existing : List Path} (plain : world.files.Plain)
    (known : Existing request world.files existing) (apart : ∀ path ∈ existing, ¬ request.SourceAt world.files path) :
    host.Safe (Ends (fun _ after => Shrinks (request.Discards world.files) world.files after.files)
      fun _ after => Shrinks (request.Discards world.files) world.files after.files)
      (clearTarget request existing).run world := by
  have removing (now : World) (shrinks : Shrinks (request.Discards world.files) world.files now.files) :
      host.Safe (Ends (fun _ after => Shrinks (request.Discards world.files) world.files after.files)
        fun _ after => Shrinks (request.Discards world.files) world.files after.files)
        (removeAll (existing.filter fun path => !path.same request.summaryPath)).run now := by
    have more {last : FileSystem} (more : Shrinks (request.Discards world.files) now.files last) := shrinks.trans more
    refine (safe_removeAll orderly_host shrinks.plain (fun _ _ _ => trivial) fun path member => ?_).weaken
      fun _ _ ended => ended.imp (fun _ _ removed => more removed.1) fun _ _ => more
    have listed := (List.mem_filter.mp member).1
    rw [shrinks.home]
    refine ⟨?_, fun location => Request.discards_of_existing known apart listed⟩
    obtain ⟨name, proper, rfl⟩ := known.listed path listed
    simp [Path.locate_div proper]
  unfold clearTarget
  split
  next listed =>
    obtain ⟨path, member, same⟩ := List.any_eq_true.mp listed
    have here : path.locate world.files.home = request.summaryPath.locate world.files.home := by
      simp only [Path.same, decide_eq_true_eq] at same
      rw [Path.locate, same, Path.locate]
    refine ⟨trivial, fun answer after replies => ?_⟩
    rcases replies.removeFile plain with ⟨rfl, removed⟩ | ⟨error, rfl, same⟩
    · refine removing after ((Shrinks.of_removes removed).weaken fun location below => ?_)
      exact Request.discards_of_existing known apart member (here ▸ below)
    · exact Shrinks.of_eq plain same
  next => exact removing world (.refl plain)

/-- Nothing in the target is on the way to the archive but the archive itself, directly in the target. There it can be
recognized. -/
def Request.Shallow (request : Request) (files : FileSystem) : Prop :=
  ∀ name rest, files.Crosses request.archive (request.directory.locate files.home ++ name :: rest) →
    rest = [] ∧ request.Recognizes files (request.directory.locate files.home ++ [name])

theorem Request.Recognizes.named (recognizes : request.Recognizes files (request.directory.locate files.home ++ [name]))
    (retained : ∃ path, request.retainedPath = .ok path) :
    request.archiveName = .ok name ∧ request.archive.fileName? = some name := by
  obtain ⟨path, retained⟩ := retained
  obtain ⟨given, archived, -, -⟩ := retainedPath_eq_ok retained
  have called := (archiveName_eq_ok archived).1
  obtain ⟨directory, located⟩ : ∃ directory, request.archive.locate files.home = directory ++ [given] :=
    Path.locate_of_fileName? called
  obtain ⟨-, last⟩ := List.append_inj' (recognizes.1.trans located) rfl
  cases last
  exact ⟨archived, called⟩

theorem Request.Recognizes.sourceAt_of_short
    (recognizes : request.Recognizes files (request.directory.locate files.home ++ [name])) (plain : files.Plain)
    (there : files.isDirectory request.directory = true) (short : name.utf8ByteSize ≤ Path.longestName) :
    request.SourceAt files (request.directory / name) := by
  obtain ⟨same, canonical, known⟩ := recognizes
  obtain ⟨given, checked, rfl, node, leads⟩ := (canonicalize_eq_ok plain).mp known
  have found := leads.occupied.2
  rw [← same] at found checked
  have occupied : files.get? (request.directory.locate files.home ++ [name]) ≠ none := by simp [found]
  have proper := plain.proper occupied name (by simp)
  refine ⟨_, _, known, canonicalize_div plain there proper short found checked, ?_⟩
  simp [same, Path.same]

/-- The archive is recognized in the target, by its name there, if it can be recognized at all. -/
theorem Request.Recognizes.sourceAt
    (recognizes : request.Recognizes files (request.directory.locate files.home ++ [name])) (plain : files.Plain)
    (there : files.isDirectory request.directory = true) (retained : ∃ path, request.retainedPath = .ok path) :
    request.SourceAt files (request.directory / name) := by
  obtain ⟨canonical, known⟩ := recognizes.2
  obtain ⟨-, -, -, node, leads⟩ := (canonicalize_eq_ok plain).mp known
  obtain ⟨-, above, split⟩ := Path.fileName?_eq_some (recognizes.named retained).2
  have inside : name ∈ request.archive.steps := Path.mem_steps_of_name (by simp [split])
  exact recognizes.sourceAt_of_short plain there
    (leads.short name (request.archive.steps_prefix_strictSteps.subset inside))

/-! ### The archive stays -/

/-- The archive is still what it was. -/
structure Survives (request : Request) (before : FileSystem) (location : Location) (node : Node)
    (now : FileSystem) : Prop where
  plain : now.Plain
  home : now.home = before.home
  found : now.status true request.archive = .ok (location, node)

namespace Survives

variable {now : FileSystem} (survives : Survives request before location node now)
include survives

theorem along (plain : after.Plain) (home : after.home = now.home)
    (kept : ∀ location, before.Crosses request.archive location → after.get? location = now.get? location) :
    Survives request before location node after := by
  refine ⟨plain, home.trans survives.home, status_along survives.plain plain home survives.found
    fun location crosses => kept location ?_⟩
  obtain ⟨front, inside, rfl⟩ := crosses
  exact ⟨front, inside, by rw [origin, survives.home, ← origin]⟩

variable (shallow : request.Shallow before)
include shallow

theorem of_changes (still : before.Plain) (known : opened.Known request)
    (changes : Changes (opened.Makes request now.home) (opened.Fills request now) now after) :
    Survives request before location node after := by
  obtain ⟨rfl, there⟩ := status_sound survives.plain survives.found
  have inside (name : String) (rest : Location)
      (same : request.archive.locate now.home = request.directory.locate now.home ++ name :: rest) :
      rest = [] ∧ request.Recognizes before (request.directory.locate before.home ++ [name]) := by
    rw [survives.home] at same
    exact shallow name rest (same ▸ Crosses.end before request.archive)
  have spared : ¬ opened.Fills request now (request.archive.locate now.home) := by
    rintro (stores | initializes | ⟨same, unknown⟩)
    · obtain ⟨names, more, same⟩ := stores.place known
      exact more (inside _ names same).1
    · obtain ⟨names, more, same⟩ := initializes.place
      exact more (inside _ names same).1
    · obtain ⟨name, -, located⟩ := known.locate_retained now.home
      rw [located] at same
      obtain ⟨-, canonical, known⟩ := (inside name [] same).2
      exact unknown ⟨rfl, canonical, canonicalize_of_status still survives.plain survives.home known survives.found⟩
  refine ⟨changes.plain, changes.home.trans survives.home, ?_⟩
  exact status_persists survives.plain changes.plain changes.home changes.persists survives.found
    (changes.kept spared there)

variable (retained : ∃ path, request.retainedPath = .ok path)
include retained

theorem of_shrinks (there : before.isDirectory request.directory = true) (still : before.Plain)
    (shrinks : Shrinks (request.Discards before) now after) : Survives request before location node after := by
  refine survives.along shrinks.plain shrinks.home fun location crosses => shrinks.same ?_
  rintro ⟨name, ⟨rest, rfl⟩, apart⟩
  rw [List.append_assoc, List.singleton_append] at crosses
  exact apart ((shallow name rest crosses).2.sourceAt still there retained)

theorem apart {other : Location} (crosses : before.Crosses request.archive other) :
    other ≠ request.summaryDraft.locate now.home ∧ other ≠ request.summaryPath.locate now.home := by
  rw [survives.home]
  refine ⟨fun same => ?_, fun same => ?_⟩
  · rw [same, locate_draft] at crosses
    exact archiveName_ne_draft ((shallow _ [] crosses).2.named retained).1
  · rw [same, locate_summary] at crosses
    exact archiveName_ne_summary ((shallow _ [] crosses).2.named retained).1

theorem of_summarizes {summary : Summary} (summarizes : Summarizes request summary now after) :
    Survives request before location node after := by
  refine survives.along summarizes.plain summarizes.home fun location crosses => ?_
  have apart := survives.apart shallow retained crosses
  rw [summarizes.get?, if_neg apart.2, if_neg apart.1]

theorem of_drafts (drafts : Drafts request now after) :
    Survives request before location node after := by
  rcases drafts with same | draft
  · exact same ▸ survives
  · exact survives.along draft.plain draft.home fun location crosses =>
      draft.other (survives.apart shallow retained crosses).1

end Survives

section Surviving

variable (plain : world.files.Plain) (shallow : request.Shallow world.files)
include plain shallow

theorem safe_prepareTarget_survives (known : opened.Known request)
    (sure : request.ArchiveInside world.files.home → certain)
    (there : world.files.exists? request.directory = true)
    (found : world.files.status true request.archive = .ok (location, node)) :
    (steady certain).Safe (Ends (fun _ after => Survives request world.files location node after.files)
      fun _ after => Survives request world.files location node after.files) (prepareTarget request).run world := by
  have start : Survives request world.files location node world.files := ⟨plain, rfl, found⟩
  refine safe_prepareTarget_steady plain sure start (fun _ absent => by cases absent.symm.trans there)
    (fun _ absent => by cases absent.symm.trans there) fun existing directory listed apart =>
      ⟨fun _ => start, fun _ => ?_⟩
  have kept {after : FileSystem} (shrinks : Shrinks (request.Discards world.files) world.files after) :
      Survives request world.files location node after :=
    start.of_shrinks shallow ⟨_, known.retained⟩ directory plain shrinks
  exact (orderly_steady.safe_of_host (fun _ _ => trivial) (safe_clearTarget_discards plain listed apart)).weaken
    fun _ _ ended =>
    ended.imp (fun _ _ => kept) fun _ _ => kept

omit plain in
theorem safe_finish_survives {begun : World} {noted : List Path} {summary : Summary} (known : opened.Known request)
    (survives : Survives request world.files location node begun.files) :
    (steady certain).Safe (Ends (fun _ after => Survives request world.files location node after.files)
      fun _ after => Survives request world.files location node after.files)
      (finish request noted summary).run begun := by
  have retained : ∃ path, request.retainedPath = .ok path := ⟨_, known.retained⟩
  exact (orderly_steady.safe_of_host (fun _ _ => trivial) (safe_finish survives.plain)).weaken
    fun _ _ ended => ended.imp
    (fun _ _ done => survives.of_summarizes shallow retained done.2) fun _ _ done =>
      survives.of_drafts shallow retained done.2

theorem safe_run_survives (sure : request.ArchiveInside world.files.home → certain)
    (there : world.files.exists? request.directory = true)
    (found : world.files.status true request.archive = .ok (location, node)) :
    (steady certain).Safe (Ends (fun _ after => Survives request world.files location node after.files)
      fun _ after => Survives request world.files location node after.files) (run request).run world := by
  refine safe_run orderly_steady (fun _ _ => trivial)
    (fun _ _ _ now => Survives request world.files location node now.files)
    ⟨plain, rfl, found⟩ (fun opened _ from_ => safe_prepareTarget_survives plain shallow from_.known sure there found)
    (fun opened content noted now from_ survives => ?_)
    fun opened content noted summary now from_ survives => safe_finish_survives shallow from_.known survives
  have sure (inside : request.ArchiveInside now.files.home) : certain := sure (survives.home ▸ inside)
  exact (safe_fillTarget_changes from_.known survives.plain sure rfl).weaken fun _ _ ended => ended.imp
    (fun _ _ changes => survives.of_changes shallow plain from_.known changes)
    fun _ _ changes => survives.of_changes shallow plain from_.known changes

end Surviving

/-- Whatever becomes of the installation, the path to the archive still leads to the same file with the same content.
Only an archive deeper in a target that may be overwritten is lost with what is around it. -/
theorem run_keeps_archive (world : World) (plain : world.files.Plain) (told : request.directory.text ≠ "")
    (fit : request.Fit world.files) (shallow : request.overwrite = true → request.Shallow world.files) {mode : Nat}
    {content : ByteArray} (found : world.files.status true request.archive = .ok (location, .file mode content)) :
    (steady (request.ArchiveInside world.files.home)).Safe
      (fun _ after => after.files.status true request.archive = .ok (location, .file mode content))
      (run request).run world := by
  by_cases clears : request.overwrite = true ∧ world.files.exists? request.directory = true
  · refine (safe_run_survives plain (shallow clears.1) id clears.2 found).weaken fun outcome after ended => ?_
    cases outcome with
    | ok => exact ended.found
    | error => exact ended.found
  · have spares : request.overwrite = true → world.files.exists? request.directory = false := by simpa using clears
    refine (safe_run_keeps plain (Path.components_ne_nil told) id spares fit).weaken fun outcome after ended => ?_
    cases outcome with
    | ok => exact ended.status plain found
    | error => exact ended.status plain found

/-- The archive is in the target, beside something that is cleared. -/
theorem run_keeps_archive_over :
    let location := ["out", "d-1-py3-none-any.whl"]
    failedWorld.files.Plain ∧ overRequest.directory.text ≠ "" ∧ overRequest.Fit failedWorld.files ∧
      overRequest.Shallow failedWorld.files ∧
      failedWorld.files.status true overRequest.archive = .ok (location, .file 0o644 Wheel.small) ∧
      failedWorld.files.exists? ⟨"out/old"⟩ = true ∧
      (steady (overRequest.ArchiveInside failedWorld.files.home)).Runs (run overRequest).run failedWorld
        (.ok Wheel.smallSummary) overWorld ∧
      overWorld.files.exists? ⟨"out/old"⟩ = false ∧
      overWorld.files.status true overRequest.archive = .ok (location, .file 0o644 Wheel.small) := by
  intro location
  -- For any request first: the program would be run otherwise.
  have whole {request : Request} {world after : World} {outcome : Except InstallError Summary} {mode : Nat}
    {content : ByteArray}
      (plain : world.files.Plain) (told : request.directory.text ≠ "") (fit : request.Fit world.files)
      (shallow : request.Shallow world.files)
        (found : world.files.status true request.archive = .ok (location, .file mode content))
      (runs : (steady (request.ArchiveInside world.files.home)).Runs (run request).run world outcome after) :=
    (run_keeps_archive world plain told fit (fun _ => shallow) found).runs runs
  have plain : failedWorld.files.Plain := ⟨by decide, rfl⟩
  have told : overRequest.directory.text ≠ "" := by decide
  have fit : overRequest.Fit failedWorld.files := .inr (.inl (by decide))
  have shallow : overRequest.Shallow failedWorld.files := by
    have steps : overRequest.archive.strictSteps = location := by decide
    have origin : failedWorld.files.origin overRequest.archive = [] := by decide
    have target : overRequest.directory.locate failedWorld.files.home = ["out"] := by decide
    have located : overRequest.archive.locate failedWorld.files.home = location := by decide
    have known : failedWorld.files.canonicalize overRequest.archive = .ok (absolutePath location) := by decide +kernel
    rintro name rest ⟨front, inside, same⟩
    simp only [steps, location, List.prefix_cons_iff, List.prefix_nil] at inside
    rw [origin, target] at same
    rcases inside with rfl | ⟨_, rfl, rfl | ⟨_, rfl, rfl⟩⟩
    · simp [settle] at same
    · simp [settle] at same
    · obtain ⟨rfl, rfl⟩ : name = "d-1-py3-none-any.whl" ∧ rest = [] := by simpa [settle] using same
      exact ⟨rfl, by rw [target, located]; rfl, _, known⟩
  have succeeds := runs_of_run (steady_perform (overRequest.ArchiveInside failedWorld.files.home)) run_over
  exact ⟨plain, told, fit, shallow, status_small, by decide +kernel, succeeds, by decide +kernel,
    whole plain told fit shallow status_small succeeds⟩

end Install
end WheelInstaller
