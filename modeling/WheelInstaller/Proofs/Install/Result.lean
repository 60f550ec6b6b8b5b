import WheelInstaller.Proofs.Install.Furnishing
import WheelInstaller.Proofs.Wheel.Scripts
import WheelInstaller.Proofs.Wheel.Summary

/-! What an installation leaves. All that is in the target is told by the archive alone: the content of its entries,
the initializers that their tree lacks, the archive and the summary. Nothing of what was there before is left. -/

namespace WheelInstaller.Install

open Host Host.Rules FileSystem Wheel

variable {request : Request} {opened : Opened} {world : World} {before after : FileSystem} {home : Location}
variable {wheel : Wheel} {entries : List Entry} {mode : Nat} {file : ByteArray}

/-- What is in the target once a wheel is installed, by the names that lead there. -/
inductive Layout (request : Request) (entries : List Entry) (mode : Nat) (file : ByteArray) (summary : Summary) :
    List String → Node → Prop where
  | target : Layout request entries mode file summary [] .directory
  | packages {names : List String} {node : Node} (packaged : Packaged request entries file names node) :
      Layout request entries mode file summary ("site-packages" :: names) node
  | archive {name : String} (named : request.archiveName = .ok name) :
      Layout request entries mode file summary [name] (.file mode file)
  | summary : Layout request entries mode file summary [Summary.fileName] (.file newFileMode summary.render.toUTF8)

/-- The archive was installed, with this summary. -/
structure Installed (request : Request) (before : FileSystem) (summary : Summary) (after : FileSystem) (wheel : Wheel)
    (mode : Nat) (file : ByteArray) : Prop where
  found : before.status true request.archive = .ok (request.archive.locate before.home, .file mode file)
  opened : Wheel.ofContent request.archive (.ok file) = .ok wheel
  distinct : (wheel.entries.map fun entry => RecordedPath.names entry.path).Nodup
  decoded : Decoded request.archive wheel.entries file
  told : Tells file (wheel.readSummary request.pythonVersion) summary
  plain : after.Plain
  layout : after.Holds (request.directory.locate before.home) (Layout request wheel.entries mode file summary)

theorem Furnished.yields_readSummary {packages : List String → Node → Prop} {content : ByteArray} {version : String}
    (furnished : Furnished request home entries mode file content packages world.files)
    (source : wheel.path = request.archive) :
    Yields (fun summary after => Furnished request home entries mode file file packages after.files ∧
      Tells file (wheel.readSummary version) summary) (wheel.readSummary version) world := by
  have stored {other : Nat} {bytes : ByteArray}
      (found : world.files.status true request.archive =
        .ok (request.archive.locate world.files.home, .file other bytes)) :
      world.files.get? (request.archive.locate home) = some (.file other bytes) :=
    furnished.here ▸ (status_sound furnished.plain found).2
  have known (bytes : ByteArray) (read : world.files.readFile wheel.path = .ok bytes) :
    bytes = file ∨ bytes = .empty := by
    rw [source] at read
    rcases readFile_eq_ok furnished.plain read with ⟨other, found⟩ | empty
    · exact furnished.archive other bytes (stored found)
    · exact .inr empty
  refine (Wheel.yields_readSummary known version).weaken fun summary after ⟨here, read, told⟩ => ⟨?_, told⟩
  subst here
  have whole : content = file := by
    rcases furnished.spoiled with same | ⟨rfl, name, named, same⟩
    · exact same
    rw [source] at read
    rcases readFile_eq_ok furnished.plain read with ⟨other, found⟩ | empty
    · have copy := furnished.copied name named
      rw [same, stored found] at copy
      cases copy
      rfl
    · exact empty.symm
  exact whole ▸ furnished

theorem holds_of_summarizes {summary : Summary}
    (furnished : Furnished request home entries mode file file (Packaged request entries file) before)
    (summarizes : Summarizes request summary before after) :
    after.Holds (request.directory.locate home) (Layout request entries mode file summary) := by
  have here := furnished.here
  subst here
  have draft : before.modeAt (request.summaryDraft.locate before.home) = newFileMode := by
    have free : before.get? (request.summaryDraft.locate before.home) = none := by
      rw [locate_draft]
      by_contra occupied
      exact archiveName_ne_draft (furnished.alone _ [] (by decide) occupied).1
    rw [modeAt, free]
  have get? := summarizes.get?
  rw [draft, locate_summary, locate_draft] at get?
  -- The summary was moved there from its draft, and nothing else was touched.
  have other {name : String} {rest : List String} (notSummary : name ≠ Summary.fileName)
      (notDraft : name ≠ s!"{Summary.fileName}.tmp") :
      after.get? (request.directory.locate before.home ++ name :: rest) =
        before.get? (request.directory.locate before.home ++ name :: rest) := by
    rw [get?, if_neg, if_neg]
    · exact apart_of_name_ne notDraft
    · exact apart_of_name_ne notSummary
  have target : after.get? (request.directory.locate before.home ++ []) = some .directory := by
    rw [get?, if_neg (by simp), if_neg (by simp), List.append_nil, furnished.target]
  have packages (names : List String) : after.get? (request.directory.locate before.home ++ "site-packages" :: names) =
      before.get? (request.sitePackages.locate before.home ++ names) := by
    rw [locate_packages, other (by decide) (by decide)]
  intro names node
  constructor
  · intro found
    cases names with
    | nil =>
      cases target.symm.trans found
      exact .target
    | cons name rest =>
      by_cases inside : name = "site-packages"
      · subst inside
        rw [packages, furnished.packages] at found
        exact .packages found
      rw [get?] at found
      split at found
      next here =>
        obtain ⟨rfl, rfl⟩ := List.cons.inj (List.append_cancel_left here)
        cases found
        exact .summary
      split at found
      · cases found
      · obtain ⟨named, rfl⟩ := furnished.alone name rest inside (by simp [found])
        cases (furnished.copied name named).symm.trans found
        exact .archive named
  · rintro (_ | packaged | named | _)
    · exact target
    · rw [packages, furnished.packages]
      exact packaged
    · rw [other (archiveName_apart named).2.1 (archiveName_apart named).2.2, furnished.copied _ named]
    · rw [get?, if_pos rfl]

/-- Once everything is extracted, a run furnishes the target and reads the summary from the whole archive. -/
theorem yields_furnish (known : opened.Known request) (straight : request.directory.Straight)
    (opens : ofContent request.archive (.ok file) = .ok opened.wheel) (bare : Bare request before.home mode file before)
    (extracted : Extracted request opened file before world.files) :
    Yields (fun result after => Decoded request.archive opened.wheel.entries file ∧
      Furnished request before.home opened.wheel.entries mode file file
        (Packaged request opened.wheel.entries file) after.files ∧
      Tells file (opened.wheel.readSummary request.pythonVersion) result.2) (furnish request opened) world := by
  obtain ⟨-, source⟩ := opened_of_ofContent opens
  let furnished (packages : List String → Node → Prop) (now : World) : Prop :=
    Decoded request.archive opened.wheel.entries file ∧
      ∃ content, Furnished request before.home opened.wheel.entries mode file content packages now.files
  let told (summary : Summary) (now : World) : Prop := Decoded request.archive opened.wheel.entries file ∧
    Furnished request before.home opened.wheel.entries mode file file
      (Packaged request opened.wheel.entries file) now.files ∧
      Tells file (opened.wheel.readSummary request.pythonVersion) summary
  refine Yields.of_safe (safe_furnish_steps orderly_host (fun _ _ => trivial)
    (fun now => Extracted request opened file before now.files)
    (fun _ => furnished (Contents request.archive opened.wheel.entries file))
    (fun _ => furnished (Packaged request opened.wheel.entries file)) (fun _ => told) (fun _ _ => True) extracted
    (fun now extracted => ?_)
    (fun paths now ⟨decoded, content, furnished⟩ => ?_) (fun paths now ⟨decoded, content, furnished⟩ => ?_)
    (fun _ _ => trivial) (fun _ _ _ => trivial) fun _ _ _ => trivial)
  · exact (yields_retainArchive known straight bare extracted).weaken fun _ _ furnished =>
      ⟨extracted.decoded known, furnished⟩
  · exact (Yields.of_safe (Packages.safe_normalize furnished.plain)).weaken fun _ _ empties =>
      ⟨decoded, content, furnished_of_empties furnished known.faithful decoded empties⟩
  · exact (furnished.yields_readSummary source).weaken fun _ _ told => ⟨decoded, told⟩

theorem yields_fillTarget (known : opened.Known request) (straight : request.directory.Straight)
    (opens : ofContent request.archive (.ok file) = .ok opened.wheel) (bare : Bare request home mode file world.files) :
    Yields (fun result after => Decoded request.archive opened.wheel.entries file ∧
      Furnished request home opened.wheel.entries mode file file
        (Packaged request opened.wheel.entries file) after.files ∧
      Tells file (opened.wheel.readSummary request.pythonVersion) result.2) (fillTarget request opened) world := by
  have here := bare.here
  subst here
  refine safe_fillTarget_parts orderly_host (fun _ _ => trivial) (·.files = world.files) (·.files = world.files)
    (fun now => Extracted request opened file world.files now.files) (fun _ => True) rfl
    (fun _ => id) (fun now same => ?_)
    (fun now extracted => yields_furnish known straight opens bare extracted) (fun _ _ => trivial) fun _ _ _ => trivial
  rw [← same] at bare ⊢
  exact yields_extract_bare known opens bare

theorem yields_finish {noted : List Path} {summary : Summary} (from_ : opened.From request before file)
    (found : before.status true request.archive = .ok (request.archive.locate before.home, .file mode file))
    (decoded : Decoded request.archive opened.wheel.entries file)
    (furnished : Furnished request before.home opened.wheel.entries mode file file
      (Packaged request opened.wheel.entries file) world.files)
    (told : Tells file (opened.wheel.readSummary request.pythonVersion) summary) :
    Yields (fun result after => Installed request before result after.files opened.wheel mode file)
      (finish request noted summary) world := by
  refine (Yields.of_safe (safe_finish furnished.plain)).weaken fun _ after ⟨same, summarizes⟩ => ?_
  subst same
  exact ⟨found, from_.wheel, from_.known.faithful.distinct, decoded, told, summarizes.plain,
    holds_of_summarizes furnished summarizes⟩

theorem yields_run (plain : world.files.Plain) (direct : request.Direct) :
    Yields (fun summary after => ∃ wheel mode file, Installed request world.files summary after.files wheel mode file)
      (run request) world := by
  let archived (mode : Nat) (file : ByteArray) : Prop :=
    world.files.status true request.archive = .ok (request.archive.locate world.files.home, .file mode file)
  let prepared (_ : List Path) (now : World) : Prop :=
    ∃ mode file, archived mode file ∧ Bare request world.files.home mode file now.files
  let filled (opened : Opened) (file : ByteArray) (summary : Summary) (now : World) : Prop :=
    ∃ mode, archived mode file ∧ Decoded request.archive opened.wheel.entries file ∧
      Furnished request world.files.home opened.wheel.entries mode file file
        (Packaged request opened.wheel.entries file) now.files ∧
      Tells file (opened.wheel.readSummary request.pythonVersion) summary
  have preparing (opened : Opened) (file : ByteArray) (from_ : opened.From request world.files file) :
      Yields prepared (prepareTarget request) world := by
    obtain ⟨mode, found⟩ := from_.status plain
    exact (yields_prepareTarget plain direct ⟨_, from_.known.retained⟩ found).weaken fun _ _ bare =>
      ⟨mode, file, found, bare⟩
  refine safe_run orderly_host (fun _ _ => trivial) filled trivial preparing
    (fun opened file noted now from_ ⟨mode, other, found, bare⟩ => ?_)
    fun opened file noted summary now from_ ⟨mode, found, decoded, furnished, told⟩ => ?_
  · obtain ⟨_, also⟩ := from_.status plain
    cases found.symm.trans also
    exact (yields_fillTarget from_.known direct.straight from_.wheel bare).weaken fun _ _ filled =>
      ⟨mode, found, filled⟩
  · exact (yields_finish from_ found decoded furnished told).weaken fun _ _ installed =>
      ⟨opened.wheel, mode, file, installed⟩

theorem Installed.unique {start last : FileSystem} {summary told : Summary} {opened : Wheel}
    (installed : Installed request before summary after wheel mode file)
    (also : Installed request start told last opened mode file) :
    told = summary ∧ ∀ names, last.get? (request.directory.locate start.home ++ names) =
      after.get? (request.directory.locate before.home ++ names) := by
  cases installed.opened.symm.trans also.opened
  cases installed.told.unique also.told
  exact ⟨rfl, fun names => Option.ext fun node => (also.layout names node).trans (installed.layout names node).symm⟩

/-- An installation that succeeds leaves the content of the archive, the initializers it lacks, a copy of the archive
and the summary in the target, and nothing else; so wherever else the same archive is installed, the same is left. -/
theorem run_installs (world : World) (plain : world.files.Plain) (direct : request.Direct) :
    host.Safe (fun outcome after => ∀ summary, outcome = .ok summary → ∃ wheel mode file,
      Installed request world.files summary after.files wheel mode file ∧
      ∀ other : World, other.files.Plain →
        other.files.status true request.archive = .ok (request.archive.locate other.files.home, .file mode file) →
        host.Safe (fun outcome last => ∀ told, outcome = .ok told → told = summary ∧
          ∀ names, last.files.get? (request.directory.locate other.files.home ++ names) =
            after.files.get? (request.directory.locate world.files.home ++ names)) (run request).run other)
      (run request).run world := by
  refine Safe.weaken (yields_run plain direct) fun outcome after ended summary success => ?_
  subst success
  obtain ⟨wheel, mode, file, installed⟩ := ended
  refine ⟨wheel, mode, file, installed, fun other still found => ?_⟩
  refine Safe.weaken (yields_run still direct) fun outcome last ended told success => ?_
  subst success
  obtain ⟨opened, _, _, also⟩ := ended
  cases also.found.symm.trans found
  exact installed.unique also

/-- An installation over a directory that holds the archive and something else. -/
theorem run_installs_over :
    failedWorld.files.Plain ∧ overRequest.Direct ∧
      host.Runs (run overRequest).run failedWorld (.ok Wheel.smallSummary) overWorld ∧
      ∃ wheel mode file, Installed overRequest failedWorld.files Wheel.smallSummary overWorld.files wheel mode file ∧
        ∀ other : World, other.files.Plain →
          other.files.status true overRequest.archive =
            .ok (overRequest.archive.locate other.files.home, .file mode file) →
          host.Safe (fun outcome last => ∀ told, outcome = .ok told → told = Wheel.smallSummary ∧
            ∀ names, last.files.get? (overRequest.directory.locate other.files.home ++ names) =
              overWorld.files.get? (overRequest.directory.locate failedWorld.files.home ++ names))
              (run overRequest).run other := by
  have plain : failedWorld.files.Plain := ⟨by decide, rfl⟩
  have direct : overRequest.Direct := by constructor <;> decide
  have succeeds := runs_of_run host_perform run_over
  -- For any request first: the program would be run otherwise.
  have whole {request : Request} {world after : World} {summary : Summary} (plain : world.files.Plain)
    (direct : request.Direct)
      (runs : host.Runs (run request).run world (.ok summary) after) :=
    (run_installs world plain direct).runs runs summary rfl
  exact ⟨plain, direct, succeeds, whole plain direct succeeds⟩

end WheelInstaller.Install

/-! ### The summary

The summary against the installed tree. It tells what the installed file of one member declares, and so what the tree
declares unless another entry of the archive was put there. -/

namespace WheelInstaller

namespace Install

open Host Host.Rules FileSystem Wheel

variable {request : Request} {world : World} {before after : FileSystem}
variable {wheel : Wheel} {entries : List Entry} {mode : Nat} {file : ByteArray} {summary : Summary}

theorem getLast?_of_lacking {implicit : Bool} {names : List String} (lacking : Lacking entries implicit names) :
    names.getLast? = some Packages.initializerName := by
  obtain ⟨paths, planned, path, member, below⟩ := lacking
  unfold Snapshot.plan? at planned
  split at planned
  · cases planned
    cases member
  · obtain ⟨visit, -, planned⟩ := Option.bind_eq_some_iff.mp planned
    cases planned
    obtain ⟨directory, -, rfl⟩ := List.mem_map.mp member
    have last := congrArg List.getLast? below
    rw [Path.components_div Packages.properName_initializer, List.getLast?_concat, Path.origin, Path.components_empty,
      List.nil_append, List.getLast?_map] at last
    obtain ⟨name, found, same⟩ := Option.map_eq_some_iff.mp last.symm
    cases same
    exact found

/-- The scripts are those that the file at the location declares, and none if there is no file. -/
structure Matches (files : FileSystem) (location : Location) (scripts : List ConsoleScript) : Prop where
  file : ∀ mode content, files.get? location = some (.file mode content) →
    ∃ text : String, content = text.toUTF8 ∧ ConsoleScript.parseAll text = .ok scripts
  nothing : (∀ mode content, files.get? location ≠ some (.file mode content)) → scripts = []

/-- The scripts are those that the file of the member declares, and none if it is not recorded. -/
structure Describes (packages : Location) (wheel : Wheel) (files : FileSystem)
    (scripts : List ConsoleScript) : Prop where
  recorded : ∀ entry ∈ wheel.entries, entry.path = wheel.scriptsMember →
    ∃ text : String, ConsoleScript.parseAll text = .ok scripts ∧
      files.get? (packages ++ RecordedPath.names entry.path) =
        some (.file ((entry.mode.map (· % 0o1000)).getD 0o444) text.toUTF8)
  unrecorded : (∀ entry ∈ wheel.entries, entry.path ≠ wheel.scriptsMember) → scripts = []

theorem Installed.describes (installed : Installed request before summary after wheel mode file) :
    Describes (request.sitePackages.locate before.home) wheel after summary.scripts := by
  obtain ⟨-, source⟩ := opened_of_ofContent installed.opened
  have distinct {entry other : Entry} (member : entry ∈ wheel.entries) (also : other ∈ wheel.entries)
      (same : entry.path = other.path) : entry = other :=
    List.inj_on_of_nodup_map installed.distinct member also (congrArg RecordedPath.names same)
  have declares := Declares.of_summary installed.told
  generalize summary.scripts = scripts at declares
  cases declares with
  | nothing missing =>
    refine ⟨fun entry member named => absurd named ?_, fun _ => rfl⟩
    simpa using List.find?_eq_none.mp missing entry member
  | @content entry text scripts found decodes parsed =>
    have member := List.mem_of_find?_eq_some found
    have named : entry.path = wheel.scriptsMember := by simpa using List.find?_some found
    refine ⟨fun other also recorded => ?_, fun unrecorded => absurd named (unrecorded entry member)⟩
    obtain rfl := distinct also member (recorded.trans named.symm)
    refine ⟨text, parsed, ?_⟩
    rw [locate_packages]
    refine (installed.layout _ _).mpr (.packages (.inl ?_))
    exact .entry member (isDirectory_scriptsMember installed.opened member named) (source ▸ decodes)

theorem exists_entry_of_packaged {names : List String} {content : ByteArray}
    (packaged : Packaged request entries file names (.file mode content))
    (other : names.getLast? ≠ some Packages.initializerName) :
    ∃ entry ∈ entries, entry.isDirectory = false ∧ RecordedPath.names entry.path = names := by
  rcases packaged with contents | ⟨lacking, -⟩
  · cases contents with
    | entry member stored decodes => exact ⟨_, member, stored, rfl⟩
  · exact absurd (getLast?_of_lacking lacking) other

theorem Installed.matches (installed : Installed request before summary after wheel mode file)
    (unaliased : Unaliased wheel) :
    Matches after
    (request.sitePackages.locate before.home ++ [wheel.distInfo, "entry_points.txt"]) summary.scripts := by
  have describes := installed.describes
  constructor
  · intro mode content found
    rw [locate_packages] at found
    have layout := (installed.layout ["site-packages", wheel.distInfo, "entry_points.txt"] _).mp found
    generalize there : ["site-packages", wheel.distInfo, "entry_points.txt"] = names at layout
    cases layout with
    | archive => cases there
    | summary => cases congrArg List.length there
    | packages packaged =>
      cases there
      obtain ⟨entry, member, stored, placed⟩ := exists_entry_of_packaged packaged (by simp; decide)
      obtain ⟨text, parsed, also⟩ := describes.recorded entry member ((unaliased entry member stored).mp placed)
      rw [placed, locate_packages] at also
      cases found.symm.trans also
      exact ⟨text, rfl, parsed⟩
  · intro nothing
    refine describes.unrecorded fun entry member named => ?_
    obtain ⟨text, -, found⟩ := describes.recorded entry member named
    rw [(unaliased entry member (isDirectory_scriptsMember installed.opened member named)).mpr named] at found
    exact nothing _ _ found

/-- The summary of an installation that succeeds tells the console scripts that the installed file of the member for
them declares. If no other entry of the archive goes where the metadata directory has that member, it so describes the
tree. -/
theorem run_describes (world : World) (plain : world.files.Plain) (direct : request.Direct) :
    host.Safe (fun outcome after => ∀ summary, outcome = .ok summary → ∃ wheel mode file,
      world.files.status true request.archive = .ok (request.archive.locate world.files.home, .file mode file) ∧
      Wheel.ofContent request.archive (.ok file) = .ok wheel ∧
      Describes (request.sitePackages.locate world.files.home) wheel after.files summary.scripts ∧
      (Unaliased wheel → Matches after.files
        (request.sitePackages.locate world.files.home ++ [wheel.distInfo, "entry_points.txt"]) summary.scripts))
      (run request).run world := by
  refine Safe.weaken (yields_run plain direct) fun outcome after ended summary success => ?_
  subst success
  obtain ⟨wheel, mode, file, installed⟩ := ended
  exact ⟨wheel, mode, file, installed.found, installed.opened, installed.describes, installed.matches⟩

/-- The small wheel declares a script, and says so where its summary looks. -/
theorem run_describes_over :
    failedWorld.files.Plain ∧ overRequest.Direct ∧
      host.Runs (run overRequest).run failedWorld (.ok Wheel.smallSummary) overWorld ∧
      ∃ wheel mode file,
        failedWorld.files.status true overRequest.archive =
          .ok (overRequest.archive.locate failedWorld.files.home, .file mode file) ∧
        Wheel.ofContent overRequest.archive (.ok file) = .ok wheel ∧
        Describes (overRequest.sitePackages.locate failedWorld.files.home) wheel overWorld.files
          Wheel.smallSummary.scripts ∧
        Unaliased wheel ∧ Matches overWorld.files
          (overRequest.sitePackages.locate failedWorld.files.home ++ [wheel.distInfo, "entry_points.txt"])
          Wheel.smallSummary.scripts := by
  have plain : failedWorld.files.Plain := ⟨by decide, rfl⟩
  have direct : overRequest.Direct := by constructor <;> decide
  have succeeds := runs_of_run host_perform run_over
  -- For any request first: the program would be run otherwise.
  have whole {request : Request} {world after : World} {summary : Summary} (plain : world.files.Plain)
    (direct : request.Direct)
      (runs : host.Runs (run request).run world (.ok summary) after) :=
    (run_describes world plain direct).runs runs summary rfl
  obtain ⟨wheel, mode, file, found, opened, describes, matches_⟩ := whole plain direct succeeds
  have unaliased : Unaliased wheel := by
    refine unaliased_of_spelled opened fun entry member _ => ?_
    cases status_small.symm.trans found
    have recorded : entry.path ∈ wheel.entries.map (·.path) := List.mem_map_of_mem member
    rw [paths_small opened] at recorded
    have spelled : ∀ path ∈ ["d-1.dist-info/WHEEL", "d-1.dist-info/METADATA", "d-1.dist-info/entry_points.txt"],
        path.toList = Text.joinWith '/' (RecordedPath.keptSegments path.toList) := by decide +kernel
    exact spelled _ recorded
  exact ⟨plain, direct, succeeds, wheel, mode, file, found, opened, describes, unaliased, matches_ unaliased⟩

end Install
end WheelInstaller
