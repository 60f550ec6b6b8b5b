import WheelInstaller.Proofs.Install.Entrance
import WheelInstaller.Proofs.Install.Unpacking
import WheelInstaller.Proofs.Packages.Normalize

/-! The target while it is filled. Stage by stage it holds exactly what the archive tells: first the content of the
entries, then a copy of the archive beside it, then the initializers that the tree of the entries lacks. -/

namespace WheelInstaller

namespace FileSystem

/-- At and below a location there is exactly what the layout tells. -/
def Holds (files : FileSystem) (location : Location) (layout : List String → Node → Prop) : Prop :=
  ∀ names node, files.get? (location ++ names) = some node ↔ layout names node

variable {before after : FileSystem} {path : Path} {gone : Location → Prop}

theorem isDirectory_of_shrinks (plain : before.Plain) (straight : path.Straight)
    (there : before.isDirectory path = true) (shrinks : Shrinks gone before after)
    (spared : ∀ location, location <+: path.locate before.home → ¬ gone location) :
    after.isDirectory path = true :=
  isDirectory_along plain shrinks.plain shrinks.home there fun other crosses =>
    shrinks.same (spared other (crosses.above straight))

end FileSystem

namespace Install

open Host Host.Rules FileSystem Wheel

variable {request : Request} {opened : Opened} {world : World} {before after files : FileSystem} {home : Location}
variable {entries : List Entry} {mode : Nat} {file : ByteArray} {names : List String} {name given : String}

/-! ### What is unpacked -/

/-- What the entries of an archive make: directories, and files with the content of their entries. -/
inductive Contents (archive : Path) (entries : List Entry) (file : ByteArray) : List String → Node → Prop where
  | root : Contents archive entries file [] .directory
  | directory {names : List String} (needed : Plan.Needed entries names) :
    Contents archive entries file names .directory
  | entry {entry : Entry} {content : ByteArray} (member : entry ∈ entries) (stored : entry.isDirectory = false)
      (decodes : Decodes archive file entry content) :
      Contents archive entries file (RecordedPath.names entry.path)
        (.file ((entry.mode.map (· % 0o1000)).getD 0o444) content)

/-- Every entry that is a file has content. -/
def Decoded (archive : Path) (entries : List Entry) (file : ByteArray) : Prop :=
  ∀ entry ∈ entries, entry.isDirectory = false → ∃ content, Decodes archive file entry content

/-- The tree of the entries lacks the initializer that the names lead to. -/
def Lacking (entries : List Entry) (implicit : Bool) (names : List String) : Prop :=
  ∃ paths, (Snapshot.ofPaths (entries.map Entry.treePath)).plan? implicit = some paths ∧
    ∃ path ∈ paths, Path.origin.Extends names path

/-- What the entries make, with an empty file for every initializer that is lacking. -/
def Packaged (request : Request) (entries : List Entry) (file : ByteArray) (names : List String) (node : Node) : Prop :=
  Contents request.archive entries file names node ∨ Lacking entries request.implicit names ∧
  node = .file newFileMode .empty

/-! ### The target before it is filled -/

theorem Opened.From.status (from_ : opened.From request files file) (plain : files.Plain) :
    ∃ mode, files.status true request.archive = .ok (request.archive.locate files.home, .file mode file) := by
  refine (readFile_eq_ok plain from_.read).resolve_right ?_
  rintro rfl
  obtain ⟨⟨index, opened, -⟩, -⟩ := opened_of_ofContent from_.wheel
  cases (openContainer_empty request.archive).symm.trans opened

/-- The target is there with nothing in it but perhaps the archive, and the archive is nowhere changed. -/
structure Bare (request : Request) (home : Location) (mode : Nat) (file : ByteArray) (files : FileSystem) : Prop where
  plain : files.Plain
  here : files.home = home
  there : files.isDirectory request.directory = true
  archive : ∀ node, files.get? (request.archive.locate home) = some node → node = .file mode file
  alone : ∀ name rest, files.get? (request.directory.locate home ++ name :: rest) ≠ none →
    request.archiveName = .ok name ∧ rest = [] ∧ request.directory.locate home ++ [name] = request.archive.locate home

theorem Bare.free (bare : Bare request home mode file files) (names : List String) :
    files.get? (request.sitePackages.locate home ++ names) = none := by
  by_contra occupied
  rw [locate_packages] at occupied
  exact archiveName_ne_sitePackages (bare.alone _ names occupied).1

/-- Whatever is left in the target leads to the archive. -/
theorem bare_of_vacant (plain : before.Plain) (still : after.Plain) (home : after.home = before.home)
    (retained : ∃ path, request.retainedPath = .ok path) (there : after.isDirectory request.directory = true)
    (archive : before.get? (request.archive.locate before.home) = some (.file mode file))
    (kept : ∀ node, after.get? (request.archive.locate before.home) = some node → node = .file mode file)
    (vacant : ∀ name rest, after.get? (request.directory.locate before.home ++ name :: rest) = none ∨
      request.SourceAt before (request.directory / name) ∧
        after.get? (request.directory.locate before.home ++ name :: rest) =
          before.get? (request.directory.locate before.home ++ name :: rest)) :
    Bare request before.home mode file after := by
  refine ⟨still, home, there, kept, fun name rest occupied => ?_⟩
  obtain ⟨source, same⟩ := (vacant name rest).resolve_left occupied
  obtain ⟨path, retained⟩ := retained
  rw [same] at occupied
  have proper := plain.proper occupied name (by simp)
  have located := source.locate plain
  rw [Path.locate_div proper] at located
  refine ⟨(source.named plain proper retained).1, ?_, located⟩
  by_contra more
  rw [List.append_cons, located] at occupied
  cases archive.symm.trans (get?_above occupied more)

/-- However the target was prepared, it is bare. -/
theorem Prepared.bare (prepared : Prepared request before after) (plain : before.Plain) (direct : request.Direct)
    (retained : ∃ path, request.retainedPath = .ok path)
    (found : before.status true request.archive = .ok (request.archive.locate before.home, .file mode file)) :
    Bare request before.home mode file after := by
  have archive := (status_sound plain found).2
  cases prepared with
  | made absent grows there =>
    have there := there direct.told
    have free := vacant_of_grows plain absent direct.straight grows there
    refine bare_of_vacant plain grows.plain grows.home retained there archive (fun node also => ?_) fun name rest =>
      .inl ?_
    · exact Option.some.inj (also.symm.trans (grows.kept archive))
    · have beyond : before.get? (request.directory.locate before.home ++ name :: rest) = none :=
        get?_below (by simp [free]) (by simp)
      refine ((grows.get? _).resolve_right fun ⟨passes, _⟩ => ?_).trans beyond
      have longer := (direct.straight.passes passes).length_le
      simp only [List.length_append, List.length_cons] at longer
      omega
  | cleared directory shrinks empty unforced =>
    have there : after.isDirectory request.directory = true := by
      refine isDirectory_of_shrinks plain direct.straight directory shrinks ?_
      rintro _ above ⟨name, rest, rfl⟩
      have longer := above.length_le
      simp only [List.length_append, List.length_cons] at longer
      omega
    refine bare_of_vacant plain shrinks.plain shrinks.home retained there archive (fun node also => ?_) empty
    rcases shrinks.get? (request.archive.locate before.home) with same | ⟨-, gone⟩
    · exact Option.some.inj ((same.symm.trans also).symm.trans archive)
    · cases gone.symm.trans also

theorem yields_prepareTarget (plain : world.files.Plain) (direct : request.Direct)
    (retained : ∃ path, request.retainedPath = .ok path)
    (found : world.files.status true request.archive = .ok (request.archive.locate world.files.home, .file mode file)) :
    Yields (fun _ after => Bare request world.files.home mode file after.files) (prepareTarget request) world :=
  (Yields.of_safe (safe_prepareTarget orderly_host plain (fun _ => direct.straight) retained fun _ _ _ =>
    trivial)).weaken
    fun _ _ prepared => prepared.bare plain direct retained found

theorem yields_extract_bare (known : opened.Known request)
    (opens : ofContent request.archive (.ok file) = .ok opened.wheel)
    (bare : Bare request world.files.home mode file world.files) :
    Yields (fun _ after => Extracted request opened file world.files after.files)
      (extract opened.wheel opened.plan request.sitePackages request.jobs) world := by
  obtain ⟨⟨index, container, -⟩, source⟩ := opened_of_ofContent opens
  refine yields_extract bare.plain known source container (fun pair planned => ?_) fun other bytes found => ?_
  · rw [known.locate_planned planned]
    exact bare.free _
  · cases bare.archive _ found
    rfl

/-! ### The tree of the entries -/

theorem Plan.Needed.front {front : List String} (needed : Plan.Needed entries names) (inside : front <+: names)
    (some : front ≠ []) : Plan.Needed entries front := by
  obtain ⟨entry, member, ⟨count, -, bound, rfl⟩ | ⟨directory, rfl⟩⟩ := needed
  · obtain ⟨length, rfl⟩ : ∃ length, front = (RecordedPath.names entry.path).take length :=
      ⟨front.length, (List.prefix_iff_eq_take.mp (inside.trans (List.take_prefix count _)))⟩
    have positive : 0 < length := Nat.pos_of_ne_zero fun zero => some (by simp [zero])
    have shorter := inside.length_le
    simp only [List.length_take] at shorter
    exact ⟨entry, member, .inl ⟨length, positive, by omega, rfl⟩⟩
  · by_cases whole : front = RecordedPath.names entry.path
    · exact ⟨entry, member, .inr ⟨directory, whole⟩⟩
    · have shorter := inside.length_le
      have less : front.length ≠ (RecordedPath.names entry.path).length := fun same => whole (inside.eq_of_length same)
      have positive := List.length_pos_of_ne_nil some
      exact ⟨entry, member, .inl ⟨front.length, positive, by omega, List.prefix_iff_eq_take.mp inside⟩⟩

section Extraction

variable (extracted : Extracted request opened file before after) (known : opened.Known request)
include extracted known

theorem Extracted.there (needed : Plan.Needed opened.wheel.entries names) :
    after.isDirectory (request.sitePackages.under names) = true := by
  obtain ⟨path, planned, below⟩ := known.faithful.complete names needed
  obtain ⟨others, proper, rfl⟩ := Plan.exists_under_of_build properName_sitePackages known.planned planned
  cases below.unique (Path.extends_under proper)
  exact extracted.directories _ planned

/-- Every file was written, so every one has content. -/
theorem Extracted.decoded : Decoded request.archive opened.wheel.entries file := by
  intro entry member isFile
  obtain ⟨path, planned⟩ := known.faithful.exists_planned member isFile
  obtain ⟨content, decodes, -⟩ := extracted.files _ planned
  exact ⟨content, decodes⟩

variable (straight : request.directory.Straight)
include straight

theorem Extracted.contents_of_found (bare : Bare request before.home mode file before) {node : Node}
    (found : after.get? (request.sitePackages.locate before.home ++ names) = some node) :
    Contents request.archive opened.wheel.entries file names node := by
  rcases extracted.changes.get? (request.sitePackages.locate before.home ++ names) with same | made | stores
  · rw [same, bare.free] at found
    cases found
  · obtain ⟨⟨path, which, passes⟩, -, directory⟩ := made
    cases directory.symm.trans found
    obtain ⟨whole, needed, below⟩ := known.faithful.exists_extends which
    have passed := (below.straight (extends_sitePackages.straight straight)).passes passes
    rw [below.locate, List.prefix_append_right_inj] at passed
    by_cases some : names = []
    · exact some ▸ .root
    · refine .directory ((needed.resolve_left ?_).front passed some)
      rintro rfl
      exact some (List.prefix_nil.mp passed)
  · obtain ⟨⟨entry, path, planned, here⟩, -⟩ := stores
    obtain ⟨content, decodes, stored⟩ := extracted.files _ planned
    have placed := known.locate_planned planned before.home
    dsimp only at stored placed
    rw [placed] at stored here
    rw [List.append_cancel_left here] at found ⊢
    cases stored.symm.trans found
    obtain ⟨member, isFile⟩ := known.faithful.mem_entries planned
    exact .entry member isFile decodes

omit straight in
theorem Extracted.found_of_contents {node : Node}
    (contents : Contents request.archive opened.wheel.entries file names node) :
    after.get? (request.sitePackages.locate before.home ++ names) = some node := by
  have made {path : Path} {names : List String} (below : request.sitePackages.Extends names path)
      (there : after.isDirectory path = true) :
      after.get? (request.sitePackages.locate before.home ++ names) = some .directory := by
    rw [← extracted.changes.home, ← below.locate]
    exact get?_of_isDirectory extracted.changes.plain there
  cases contents with
  | root => exact made (.refl _) extracted.packages
  | directory needed =>
    obtain ⟨path, planned, below⟩ := known.faithful.complete _ needed
    exact made below (extracted.directories path planned)
  | @entry entry content member stored decodes =>
    obtain ⟨path, planned⟩ := known.faithful.exists_planned member stored
    obtain ⟨other, also, found⟩ := extracted.files _ planned
    rw [decodes.unique also, known.locate_planned planned] at found
    exact found

theorem Extracted.holds (bare : Bare request before.home mode file before) :
    after.Holds (request.sitePackages.locate before.home) (Contents request.archive opened.wheel.entries file) :=
  fun _ _ => ⟨extracted.contents_of_found known straight bare, extracted.found_of_contents known⟩

theorem Extracted.elsewhere (other : name ≠ "site-packages") (rest : List String) :
    after.get? (request.directory.locate before.home ++ name :: rest) =
      before.get? (request.directory.locate before.home ++ name :: rest) := by
  apply extracted.changes.same
  · intro stores
    obtain ⟨names, -, same⟩ := stores.place known
    exact apart_of_name_ne other same
  · intro makes
    obtain ⟨names, below⟩ := makes.below known straight
    rw [List.prefix_append_right_inj, List.cons_prefix_cons] at below
    exact other below.1

end Extraction

/-! ### The copy of the archive -/

/-- The target holds the packages and a copy of the archive; which may be spoiled, if the archive itself was spoiled
with it. -/
structure Furnished (request : Request) (home : Location) (entries : List Entry) (mode : Nat) (file content : ByteArray)
    (packages : List String → Node → Prop) (files : FileSystem) : Prop where
  plain : files.Plain
  here : files.home = home
  target : files.get? (request.directory.locate home) = some .directory
  packages : files.Holds (request.sitePackages.locate home) packages
  copied : ∀ name, request.archiveName = .ok name →
    files.get? (request.directory.locate home ++ [name]) = some (.file mode content)
  alone : ∀ name rest, name ≠ "site-packages" → files.get? (request.directory.locate home ++ name :: rest) ≠ none →
    request.archiveName = .ok name ∧ rest = []
  archive : ∀ other bytes, files.get? (request.archive.locate home) = some (.file other bytes) →
    bytes = file ∨ bytes = .empty
  spoiled : content = file ∨ content = .empty ∧
    ∃ name, request.archiveName = .ok name ∧ request.directory.locate home ++ [name] = request.archive.locate home
  directories : ∀ names, Plan.Needed entries names → files.isDirectory (request.sitePackages.under names) = true

section Retaining

variable (known : opened.Known request) (straight : request.directory.Straight)
    (bare : Bare request before.home mode file before)
variable (extracted : Extracted request opened file before after)
include known straight bare extracted

theorem furnished_of_already (source : request.SourceAt after opened.retained) :
    Furnished request before.home opened.wheel.entries mode file file
      (Contents request.archive opened.wheel.entries file) after := by
  obtain ⟨given, named, retained⟩ := known.locate_retained before.home
  have changes := extracted.changes
  have target := changes.directory (bare.here ▸ get?_of_isDirectory bare.plain bare.there)
  have located := source.locate changes.plain
  rw [changes.home, retained] at located
  refine ⟨changes.plain, changes.home, target, extracted.holds known straight bare, fun name also => ?_,
    fun name rest other occupied => ?_, fun other bytes found => ?_, .inl rfl, fun names needed =>
      extracted.there known needed⟩
  · cases named.symm.trans also
    obtain ⟨canonical, -, reached, -⟩ := source
    have occupied := get?_of_canonicalize changes.plain reached
    rw [changes.home, ← located, extracted.elsewhere known straight (archiveName_apart named).1, located] at occupied
    obtain ⟨node, found⟩ := Option.ne_none_iff_exists'.mp occupied
    rw [extracted.elsewhere known straight (archiveName_apart named).1, located, found, bare.archive node found]
  · rw [extracted.elsewhere known straight other] at occupied
    exact ⟨(bare.alone name rest occupied).1, (bare.alone name rest occupied).2.1⟩
  · cases bare.archive _ (extracted.archived other bytes found)
    exact .inl rfl

theorem furnished_of_copied {last : FileSystem} {other : Nat} {bytes : ByteArray}
    (found : after.status true request.archive = .ok (request.archive.locate after.home, .file other bytes))
    (replaces : after.Replaces (opened.retained.locate after.home) other
      (if opened.retained.locate after.home = request.archive.locate after.home then .empty else bytes) last) :
    ∃ content, Furnished request before.home opened.wheel.entries mode file content
      (Contents request.archive opened.wheel.entries file) last := by
  obtain ⟨given, named, located⟩ := known.locate_retained before.home
  have changes := extracted.changes
  have target := changes.directory (bare.here ▸ get?_of_isDirectory bare.plain bare.there)
  have there := (status_sound changes.plain found).2
  rw [changes.home, located] at replaces
  rw [changes.home] at there
  cases bare.archive _ (extracted.archived other bytes there)
  have apart (rest : Location) :
      request.sitePackages.locate before.home ++ rest ≠ request.directory.locate before.home ++ [given] :=
    located ▸ (known.retained_apart before.home rest).symm
  -- An archive that is copied onto itself loses its content.
  refine ⟨if request.directory.locate before.home ++ [given] = request.archive.locate before.home then .empty else file,
    replaces.plain, replaces.home.trans changes.home, ?_, fun names node => ?_, fun name also => ?_,
    fun name rest distinct occupied => ?_, fun changed bytes stored => ?_, ?_, fun names needed => ?_⟩
  · exact (replaces.other (by simp)).trans target
  · rw [replaces.other (apart names)]
    exact extracted.holds known straight bare names node
  · cases named.symm.trans also
    exact replaces.same
  · by_cases here : request.directory.locate before.home ++ name :: rest =
      request.directory.locate before.home ++ [given]
    · obtain ⟨rfl, rfl⟩ := List.cons.inj (List.append_cancel_left here)
      exact ⟨named, rfl⟩
    · rw [replaces.other here, extracted.elsewhere known straight distinct] at occupied
      exact ⟨(bare.alone name rest occupied).1, (bare.alone name rest occupied).2.1⟩
  · rw [replaces.get?] at stored
    split at stored
    next same =>
      rw [if_pos same.symm] at stored
      cases stored
      exact .inr rfl
    next => cases there.symm.trans stored; exact .inl rfl
  · split
    next same => exact .inr ⟨rfl, given, named, same⟩
    next => exact .inl rfl
  · exact isDirectory_persists changes.plain replaces.plain replaces.home replaces.persists
      (extracted.there known needed)

end Retaining

theorem yields_retainArchive (known : opened.Known request) (straight : request.directory.Straight)
    (bare : Bare request before.home mode file before) (extracted : Extracted request opened file before world.files) :
    Yields (fun _ after => ∃ content, Furnished request before.home opened.wheel.entries mode file content
      (Contents request.archive opened.wheel.entries file) after.files)
      (retainArchive request opened.retained) world := by
  refine (Yields.of_safe (safe_retainArchive_orderly orderly_host (fun _ _ => trivial) extracted.changes.plain)).weaken
    fun noted after kept => ?_
  rcases kept with ⟨source, same⟩ | ⟨other, bytes, found, replaces⟩
  · exact ⟨file, same ▸ furnished_of_already known straight bare extracted source⟩
  · exact furnished_of_copied known straight bare extracted found replaces

/-! ### Initializers -/

section Told

variable {content : ByteArray}
variable (furnished : Furnished request home entries mode file content (Contents request.archive entries file) files)
include furnished

theorem isDirectory_iff (occupied : files.get? (request.sitePackages.locate home ++ names) ≠ none) (some : names ≠ []) :
    files.isDirectory (request.sitePackages.under names) = true ↔ Plan.Needed entries names := by
  refine ⟨fun there => ?_, furnished.directories names⟩
  have proper : ∀ name ∈ names, ProperName name := fun name member =>
    furnished.plain.proper occupied name (List.mem_append_right _ member)
  have found := get?_of_isDirectory furnished.plain there
  rw [(Path.extends_under proper).locate, furnished.here] at found
  generalize place : Node.directory = node at found
  cases (furnished.packages names node).mp found with
  | root => exact absurd rfl some
  | directory needed => exact needed
  | entry => cases place

/-- The host tells of the directories and the files that the entries make, and of no others. -/
theorem told_iff (decoded : Decoded request.archive entries file)
    (apart : ∀ entry ∈ entries, entry.isDirectory = false → ¬ Plan.Needed entries (RecordedPath.names entry.path))
    (some : names ≠ []) :
    (Packages.Told true files request.sitePackages names ↔ Plan.Needed entries names) ∧
      (Packages.Told false files request.sitePackages names ↔ Plan.Stored entries names) := by
  unfold Packages.Told
  rw [furnished.here]
  refine ⟨⟨fun ⟨occupied, there⟩ => ?_, fun needed => ?_⟩, ⟨fun ⟨occupied, other⟩ => ?_, fun stored => ?_⟩⟩
  · exact (isDirectory_iff furnished occupied some).mp there
  · have found := (furnished.packages names _).mpr (.directory needed)
    exact ⟨by simp [found], furnished.directories names needed⟩
  · obtain ⟨node, found⟩ := Option.ne_none_iff_exists'.mp occupied
    cases (furnished.packages names node).mp found with
    | root => exact absurd rfl some
    | directory needed => cases other.symm.trans (furnished.directories names needed)
    | entry member isFile decodes => exact ⟨_, member, isFile, rfl⟩
  · obtain ⟨entry, member, isFile, rfl⟩ := stored
    obtain ⟨bytes, decodes⟩ := decoded entry member isFile
    have found := (furnished.packages _ _).mpr (.entry member isFile decodes)
    have occupied : files.get? (request.sitePackages.locate home ++ RecordedPath.names entry.path) ≠ none := by
      simp [found]
    refine ⟨occupied, Bool.not_eq_true _ ▸ fun there => apart entry member isFile ?_⟩
    exact (isDirectory_iff furnished occupied some).mp there

theorem missing_iff_lacking {plan : Plan} {root : Path} (faithful : plan.Faithful root entries)
    (decoded : Decoded request.archive entries file) {implicit : Bool} :
    Packages.Missing files request.sitePackages implicit names ↔ Lacking entries implicit names := by
  obtain ⟨proper, shows⟩ := Snapshot.depicts_treePaths faithful.named faithful.proper
  have depicts := shows.congr (fun names some => (told_iff furnished decoded faithful.apart some).2)
    fun names some => (told_iff furnished decoded faithful.apart some).1
  constructor
  · rintro missing
    obtain ⟨paths, planned, -⟩ := Snapshot.exists_plan? proper
    have planned : (Snapshot.ofPaths (entries.map Entry.treePath)).plan? implicit = some paths := missing.1 ▸ planned
    exact ⟨paths, planned, (Packages.missing_iff proper depicts planned).mp missing⟩
  · rintro ⟨paths, planned, named⟩
    exact (Packages.missing_iff proper depicts planned).mpr named

theorem vacant_of_missing {written : Location → Prop} {implicit : Bool}
    (missing : Packages.Missing files request.sitePackages implicit names)
    (empties : Packages.Empties files written after)
    (inside : written (request.sitePackages.locate files.home ++ names)) :
    files.get? (request.sitePackages.locate files.home ++ names) = none := by
  cases found : files.get? (request.sitePackages.locate files.home ++ names) with
  | none => rfl
  | some node =>
    cases node with
    | file => exact absurd found (missing.free furnished.plain)
    | directory => exact absurd found (empties.inside _ inside).1
    | link => exact absurd found furnished.plain.not_link

section Initialized

variable {plan : Plan} {root : Path} (faithful : plan.Faithful root entries)
    (decoded : Decoded request.archive entries file)
variable (empties : Packages.Empties files (fun location => ∃ names,
  Packages.Missing files request.sitePackages request.implicit names ∧
    location = request.sitePackages.locate files.home ++ names) after)
include faithful decoded empties

/-- What the entries make stays, and an empty file is where they lack an initializer. -/
theorem holds_of_empties : after.Holds (request.sitePackages.locate home) (Packaged request entries file) := by
  have here := furnished.here
  subst here
  intro names node
  have lacking : Packages.Missing files request.sitePackages request.implicit names ↔
    Lacking entries request.implicit names :=
    missing_iff_lacking furnished faithful decoded
  by_cases missing : Packages.Missing files request.sitePackages request.implicit names
  · have vacant := vacant_of_missing furnished missing empties ⟨names, missing, rfl⟩
    have written := (empties.inside _ ⟨names, missing, rfl⟩).2
    rw [modeAt, vacant] at written
    rw [written]
    constructor
    · rintro ⟨⟩
      exact .inr ⟨lacking.mp missing, rfl⟩
    · rintro (contents | ⟨-, rfl⟩)
      · cases vacant.symm.trans ((furnished.packages names node).mpr contents)
      · rfl
  · have apart : ¬ ∃ others, Packages.Missing files request.sitePackages request.implicit others ∧
        request.sitePackages.locate files.home ++ names = request.sitePackages.locate files.home ++ others := by
      rintro ⟨others, also, same⟩
      exact missing (List.append_cancel_left same ▸ also)
    rw [empties.outside _ apart, furnished.packages]
    exact ⟨.inl, fun packaged => packaged.resolve_right fun lacks => missing (lacking.mpr lacks.1)⟩

theorem furnished_of_empties : Furnished request home entries mode file content
    (Packaged request entries file) after := by
  have holds := holds_of_empties furnished faithful decoded empties
  have here := furnished.here
  subst here
  have outside {name : String} {rest : List String} (other : name ≠ "site-packages") :
      after.get? (request.directory.locate files.home ++ name :: rest) =
        files.get? (request.directory.locate files.home ++ name :: rest) := by
    refine empties.outside _ ?_
    rintro ⟨names, -, same⟩
    rw [locate_packages] at same
    exact apart_of_name_ne other same
  have persists : Persists files after := by
    intro location node found
    refine ⟨node, (empties.outside location ?_).trans found, id⟩
    rintro ⟨names, missing, rfl⟩
    cases (vacant_of_missing furnished missing empties ⟨names, missing, rfl⟩).symm.trans found
  refine ⟨empties.plain, empties.home, persists.directory furnished.target, holds, fun name named => ?_,
    fun name rest other occupied => ?_, fun other bytes found => ?_, furnished.spoiled, fun names needed => ?_⟩
  · rw [outside (archiveName_apart named).1, furnished.copied name named]
  · rw [outside other] at occupied
    exact furnished.alone name rest other occupied
  · by_cases written : ∃ names, Packages.Missing files request.sitePackages request.implicit names ∧
        request.archive.locate files.home = request.sitePackages.locate files.home ++ names
    · rw [(empties.inside _ written).2] at found
      cases found
      exact .inr rfl
    · rw [empties.outside _ written] at found
      exact furnished.archive other bytes found
  · exact isDirectory_persists furnished.plain empties.plain empties.home persists (furnished.directories names needed)

end Initialized

end Told

end Install
end WheelInstaller
