import WheelInstaller.Proofs.FileSystem.Reach
import WheelInstaller.Proofs.Install.Filling
import WheelInstaller.Proofs.Wheel.Content

/-! What extraction leaves. Every planned file holds what its entry decodes to, with the permissions that the entry
tells: nothing is written over the archive, so it is read as it was opened. -/

namespace WheelInstaller

namespace FileSystem

variable {files after : FileSystem} {path : Path} {location : Location} {mode : Nat} {content : ByteArray}

theorem Replaces.persists (replaces : files.Replaces location mode content after) : Persists files after := by
  intro other node found
  by_cases same : other = location
  · subst same
    exact ⟨_, replaces.same, fun directory => absurd (directory ▸ found) replaces.free⟩
  · exact ⟨node, (replaces.other same).trans found, id⟩

theorem isDirectory_persists (plain : files.Plain) (still : after.Plain) (home : after.home = files.home)
    (persists : Persists files after) (there : files.isDirectory path = true) : after.isDirectory path = true := by
  obtain ⟨location, found⟩ := status_of_isDirectory there
  have kept := persists.directory (status_sound plain found).2
  have reached := status_persists plain still home persists found kept
  simp [isDirectory, reached]

theorem readFile_of_status (found : files.status true path = .ok (location, .file mode content)) :
    files.readFile path = .ok content := by
  simp [readFile, found, bind, Except.bind, pure, Except.pure]

theorem readFile_eq_ok (plain : files.Plain) (read : files.readFile path = .ok content) :
    (∃ mode, files.status true path = .ok (path.locate files.home, .file mode content)) ∨ content = .empty := by
  unfold readFile at read
  cases reached : files.status true path with
  | error => simp [reached, bind, Except.bind] at read
  | ok place =>
    obtain ⟨location, node⟩ := place
    simp only [reached, bind, Except.bind, pure, Except.pure] at read
    split at read
    next inside mode bytes same =>
      cases read
      cases same
      obtain ⟨rfl, -⟩ := status_sound plain reached
      exact .inl ⟨mode, rfl⟩
    next => exact .inr (Except.ok.inj read).symm

end FileSystem

namespace Install

open Host Host.Rules FileSystem Wheel

variable {world : World} {archive : Path} {index : Container.Index} {file : ByteArray} {entry : Entry}
    {destination : Path}

theorem fileMode_eq (entry : Entry) : fileMode entry = (entry.mode.map (· % 0o1000)).getD 0o444 := by
  unfold fileMode
  cases entry.mode <;> rfl

theorem permissions_fileMode (entry : Entry) : permissions (fileMode entry) = fileMode entry := by
  have small : fileMode entry < 0o1000 := by
    unfold fileMode defaultMode
    split <;> omega
  exact Nat.mod_eq_of_lt (Nat.lt_trans small (by decide))

/-! ### One file -/

theorem yields_writeChunks {opened : OpenFile} {chunks : List ByteArray} {mode : Nat} {content : ByteArray}
    (plain : world.files.Plain) (found : world.files.get? opened.location = some (.file mode content)) :
    Yields (fun _ after => world.files.Replaces opened.location mode (content ++ Stream.joined chunks) after.files)
      (writeChunks destination opened chunks) world := by
  induction chunks generalizing world content with
  | nil => exact Safe.returned (by simpa using Replaces.refl plain found)
  | cons chunk rest ih =>
    unfold writeChunks
    refine ⟨trivial, fun answer after replies => ?_⟩
    rcases replies.append plain found with ⟨rfl, replaces⟩ | ⟨error, part, rfl, -⟩
    · refine (ih replaces.plain replaces.same).weaken fun _ last further => ?_
      rw [Stream.joined_cons, ← ByteArray.append_assoc]
      exact replaces.trans further
    · trivial

theorem yields_copyContent {opened : OpenFile} {stream : EntryStream} {mode : Nat} {content : ByteArray}
    (plain : world.files.Plain) (found : world.files.get? opened.location = some (.file mode content)) :
    Yields (fun _ after => stream.drain.outcome = .ok () ∧
      world.files.Replaces opened.location mode (content ++ Stream.joined stream.drain.chunks) after.files)
      (copyContent stream destination opened) world := by
  unfold copyContent
  refine (yields_writeChunks plain found).bind fun _ now replaces => ?_
  have drained : Yields (fun _ now => stream.drain.outcome = .ok () ∧
      world.files.Replaces opened.location mode (content ++ Stream.joined stream.drain.chunks) now.files)
      (settled (stream.drain.outcome.mapError StepError.archive)) now := by
    refine Yields.settled fun _ done => ⟨?_, replaces⟩
    cases outcome : stream.drain.outcome with
    | ok => rfl
    | error =>
      rw [outcome] at done
      cases done
  refine drained.bind fun _ now done => ?_
  refine ⟨trivial, fun answer after replies => ?_⟩
  have looks : (Host.Request.flush opened).Looks := trivial
  have same := World.files_of_looks looks replies
  cases answer with
  | ok => exact Safe.returned (same ▸ done)
  | error => trivial

theorem safe_currentContent {location : Location} {mode : Nat} (known : index.file = file)
    (legible : world.files.status true archive = .ok (location, .file mode file)) :
    host.Safe (fun content after => after = world ∧ content = file) (currentContent archive index) world := by
  refine ⟨trivial, fun answer after replies => ?_⟩
  obtain ⟨rfl, told⟩ := replies.readFile
  cases answer with
  | ok content =>
    have same := (told content rfl).symm.trans (readFile_of_status legible)
    exact ⟨rfl, Except.ok.inj same⟩
  | error => exact ⟨rfl, known⟩

/-- As long as the archive is as it was opened, a file gets the content of its entry. -/
theorem yields_extractFile {location : Location} {mode : Nat} (plain : world.files.Plain)
    (opened : openContainer archive (.ok file) = .ok index)
    (legible : world.files.status true archive = .ok (location, .file mode file))
    (apart : destination.locate world.files.home ≠ archive.locate world.files.home) :
    Yields (fun _ after => ∃ content, Decodes archive file entry content ∧
      world.files.Replaces (destination.locate world.files.home) (fileMode entry) content after.files)
      (extractFile archive (.ok index) entry destination) world := by
  have known : index.file = file := file_of_openContainer opened
  unfold extractFile
  refine (Yields.of_safe safe_checkCancelled).bind fun _ now here => ?_
  subst here
  have indexed : Yields (fun value after => value = index ∧ after = now)
    (settled (Except.mapError StepError.archive (.ok index))) now :=
    Yields.settled fun value done => ⟨(Except.ok.inj done).symm, rfl⟩
  refine indexed.bind fun value after ⟨same, here⟩ => ?_
  subst same here
  refine Yields.bind (Yields.lift (safe_currentContent known legible)) fun content after ⟨here, read⟩ => ?_
  subst here read
  have finding : Yields (fun found after' => locateEntry archive value content entry = .ok found ∧ after' = after)
      (settled ((locateEntry archive value content entry).mapError StepError.archive)) after := by
    refine Yields.settled fun found done => ⟨?_, rfl⟩
    cases located : locateEntry archive value content entry with
    | ok other =>
      rw [located] at done
      cases done
      rfl
    | error =>
      rw [located] at done
      cases done
  refine finding.bind fun found now ⟨located, here⟩ => ?_
  subst here
  refine ⟨trivial, fun answer created replies => ?_⟩
  rcases replies.createFile plain with ⟨handle, rfl, place, made⟩ | ⟨error, rfl, -⟩
  -- The content is read after the file was made, so the archive must not have been at its place.
  · have still : created.files.status true archive = .ok (location, .file mode content) := by
      obtain ⟨rfl, there⟩ := status_sound plain legible
      exact status_persists plain made.plain made.home made.persists legible ((made.other apart.symm).trans there)
    refine Yields.bind (Yields.lift (safe_currentContent known still)) fun bytes after ⟨here, read⟩ => ?_
    subst here read
    have empty : after.files.get? handle.location = some (.file _ .empty) := place ▸ made.same
    refine (yields_copyContent made.plain empty).bind fun size filled ⟨drained, wrote⟩ => ?_
    rw [ByteArray.empty_append, place] at wrote
    have whole := made.trans wrote
    have found := whole.same
    rw [← whole.home] at found
    refine ⟨trivial, fun answer done replies => ?_⟩
    rcases replies.setMode whole.plain found with ⟨rfl, allowed⟩ | ⟨error, rfl, -⟩
    · rw [permissions_fileMode, whole.home] at allowed
      exact Safe.returned ⟨_, decodes_of_drain opened located drained, whole.trans allowed⟩
    · trivial
  · trivial

/-! ### Many files -/

/-- Files that are written each to its own place. -/
structure Unpacks (archive : Path) (file : ByteArray) (files : List (Entry × Path))
    (before after : FileSystem) : Prop where
  plain : after.Plain
  home : after.home = before.home
  persists : Persists before after
  inside : ∀ pair ∈ files, ∃ content, Decodes archive file pair.1 content ∧
    after.get? (pair.2.locate before.home) = some (.file (fileMode pair.1) content)
  outside : ∀ location, (∀ pair ∈ files, location ≠ pair.2.locate before.home) →
    after.get? location = before.get? location

namespace Unpacks

variable {files more : List (Entry × Path)} {before middle after : FileSystem}

theorem nil (plain : before.Plain) : Unpacks archive file [] before before :=
  ⟨plain, rfl, fun _ node found => ⟨node, found, id⟩, by simp, by simp⟩

theorem single {content : ByteArray} (decodes : Decodes archive file entry content)
    (replaces : before.Replaces (destination.locate before.home) (fileMode entry) content after) :
    Unpacks archive file [(entry, destination)] before after := by
  refine ⟨replaces.plain, replaces.home, replaces.persists, fun pair member => ?_, fun location apart => ?_⟩
  · cases List.mem_singleton.mp member
    exact ⟨content, decodes, replaces.same⟩
  · exact replaces.other (apart (entry, destination) (List.mem_singleton_self _))

theorem append (first : Unpacks archive file files before middle) (second : Unpacks archive file more middle after)
    (apart : ∀ pair ∈ files, ∀ other ∈ more, pair.2.locate before.home ≠ other.2.locate before.home) :
    Unpacks archive file (files ++ more) before after := by
  obtain ⟨plain, home, persists, inside, outside⟩ := second
  rw [first.home] at home inside outside
  refine ⟨plain, home, first.persists.trans persists, fun pair member => ?_, fun location spared => ?_⟩
  · rcases List.mem_append.mp member with early | late
    · obtain ⟨content, decodes, found⟩ := first.inside pair early
      exact ⟨content, decodes, (outside _ (apart pair early)).trans found⟩
    · exact inside pair late
  · have spared' : ∀ pair ∈ more, location ≠ pair.2.locate before.home := fun pair member =>
      spared pair (by simp [member])
    rw [outside location spared']
    exact first.outside location fun pair member => spared pair (by simp [member])

theorem status {location : Location} {mode : Nat} (unpacks : Unpacks archive file files before after)
    (plain : before.Plain) (apart : ∀ pair ∈ files, pair.2.locate before.home ≠ archive.locate before.home)
    (legible : before.status true archive = .ok (location, .file mode file)) :
    after.status true archive = .ok (location, .file mode file) := by
  obtain ⟨rfl, there⟩ := status_sound plain legible
  refine status_persists plain unpacks.plain unpacks.home unpacks.persists legible ?_
  rw [unpacks.outside _ fun pair member => (apart pair member).symm, there]

end Unpacks

theorem yields_extractFile_unopened {error : ArchiveError} :
    Yields (fun _ _ => False) (extractFile archive (.error error) entry destination) world := by
  unfold extractFile
  exact (Yields.of_safe safe_checkCancelled).bind fun _ now _ => trivial

theorem yields_extractFiles_unopened {error : ArchiveError} {files : List (Entry × Path)} :
    Yields (fun _ after => after = world ∧ files = []) (extractFiles archive (.error error) files) world := by
  cases files with
  | nil => exact Safe.returned ⟨rfl, rfl⟩
  | cons pair rest =>
    unfold extractFiles
    exact yields_extractFile_unopened.bind fun _ _ => False.elim

section Legible

variable {location : Location} {mode : Nat} {files : List (Entry × Path)}

theorem yields_extractFiles (plain : world.files.Plain) (opened : openContainer archive (.ok file) = .ok index)
    (legible : world.files.status true archive = .ok (location, .file mode file))
    (distinct : (files.map fun pair => pair.2.locate world.files.home).Nodup)
    (apart : ∀ pair ∈ files, pair.2.locate world.files.home ≠ archive.locate world.files.home) :
    Yields (fun _ after => Unpacks archive file files world.files after.files)
    (extractFiles archive (.ok index) files) world := by
  induction files generalizing world with
  | nil => exact Safe.returned (.nil plain)
  | cons pair rest ih =>
    obtain ⟨entry, destination⟩ := pair
    rw [List.map_cons, List.nodup_cons] at distinct
    obtain ⟨here, others⟩ := List.forall_mem_cons.mp apart
    unfold extractFiles
    refine (yields_extractFile plain opened legible here).bind fun size now extracted => ?_
    obtain ⟨content, decodes, replaces⟩ := extracted
    have first := Unpacks.single decodes replaces
    have legible := first.status plain (by simpa using here) legible
    have further := ih first.plain legible (by rw [first.home]; exact distinct.2) (by rw [first.home]; exact others)
    refine further.bind fun size last second => Safe.returned ?_
    refine first.append second fun pair member other later same => distinct.1 ?_
    cases List.mem_singleton.mp member
    exact List.mem_map.mpr ⟨other, later, same.symm⟩

/-- Whatever the archive is opened from, the share is written as it was, or there is nothing to write. -/
theorem yields_share {answer : Except OsError ByteArray} (plain : world.files.Plain)
    (opened : openContainer archive (.ok file) = .ok index) (told : ∀ content, answer = .ok content → content = file)
    (legible : world.files.status true archive = .ok (location, .file mode file))
    (distinct : (files.map fun pair => pair.2.locate world.files.home).Nodup)
    (apart : ∀ pair ∈ files, pair.2.locate world.files.home ≠ archive.locate world.files.home) :
    Yields (fun _ after => Unpacks archive file files world.files after.files)
      (extractFiles archive (openContainer archive answer) files) world := by
  cases answer with
  | ok content =>
    cases told content rfl
    rw [opened]
    exact yields_extractFiles plain opened legible distinct apart
  | error =>
    refine yields_extractFiles_unopened.weaken fun _ after ⟨here, empty⟩ => ?_
    subst here empty
    exact .nil plain

theorem yields_extractShares {shares : List (List (Entry × Path))} (plain : world.files.Plain)
    (opened : openContainer archive (.ok file) = .ok index)
    (legible : world.files.status true archive = .ok (location, .file mode file))
    (distinct : (shares.flatten.map fun pair => pair.2.locate world.files.home).Nodup)
    (apart : ∀ pair ∈ shares.flatten, pair.2.locate world.files.home ≠ archive.locate world.files.home) :
    Yields (fun _ after => Unpacks archive file shares.flatten world.files after.files)
    (extractShares archive shares) world := by
  induction shares generalizing world with
  | nil => exact Safe.returned (.nil plain)
  | cons share rest ih =>
    rw [List.flatten_cons, List.map_append, List.nodup_append] at distinct
    rw [List.flatten_cons, List.forall_mem_append] at apart
    unfold extractShares
    refine ⟨trivial, fun answer now replies => ?_⟩
    obtain ⟨rfl, told⟩ := replies.readFile
    have told : ∀ content, answer = .ok content → content = file := fun content read =>
      Except.ok.inj ((told content read).symm.trans (readFile_of_status legible))
    refine (yields_share plain opened told legible distinct.1 apart.1).bind fun size middle first => ?_
    have further := ih first.plain (first.status plain apart.1 legible) (by rw [first.home]; exact distinct.2.1)
      (by rw [first.home]; exact apart.2)
    refine further.bind fun size last second => Safe.returned ?_
    exact first.append second fun pair member other later =>
      distinct.2.2 _ (List.mem_map_of_mem member) _ (List.mem_map_of_mem later)

end Legible

theorem yields_extractShares_illegible {shares : List (List (Entry × Path))}
    (illegible : ∀ content, world.files.readFile archive = .ok content → content = .empty) :
    Yields (fun _ after => after = world ∧ shares.flatten = []) (extractShares archive shares) world := by
  induction shares with
  | nil => exact Safe.returned ⟨rfl, rfl⟩
  | cons share rest ih =>
    unfold extractShares
    refine ⟨trivial, fun answer now replies => ?_⟩
    obtain ⟨rfl, told⟩ := replies.readFile
    have unopened : ∃ error, openContainer archive answer = .error error := by
      cases answer with
      | ok content => exact ⟨_, illegible content (told content rfl) ▸ openContainer_empty archive⟩
      | error => exact ⟨_, rfl⟩
    obtain ⟨error, unopened⟩ := unopened
    have nothing : Yields (fun _ after => after = now ∧ share = [])
      (extractFiles archive (openContainer archive answer) share) now :=
      unopened ▸ yields_extractFiles_unopened
    refine nothing.bind fun size middle done => ?_
    obtain ⟨rfl, rfl⟩ := done
    exact ih.bind fun size last done => Safe.returned done

/-! ### Directories, and the whole -/

theorem yields_makeDirectories {directories : List Path} (plain : world.files.Plain)
    (told : ∀ path ∈ directories, path.components ≠ []) :
    Yields (fun _ after => world.files.Grows (fun _ => True) after.files ∧ ∀ path ∈ directories,
      after.files.isDirectory path = true)
      (makeDirectories directories) world := by
  induction directories generalizing world with
  | nil => exact Safe.returned ⟨.refl plain, by simp⟩
  | cons directory rest ih =>
    rw [List.forall_mem_cons] at told
    unfold makeDirectories
    refine ⟨trivial, fun answer made replies => ?_⟩
    obtain ⟨grows, there⟩ := replies.createDirectories plain
    cases answer with
    | error => trivial
    | ok =>
      refine (ih grows.plain told.2).weaken fun _ last made => ?_
      obtain ⟨further, others⟩ := made
      refine ⟨(grows.weaken fun _ _ => trivial).trans further, List.forall_mem_cons.mpr ⟨?_, others⟩⟩
      exact isDirectory_persists grows.plain further.plain further.home further.persists (there rfl told.1)

variable {request : Request} {opened : Opened}

theorem Opened.Known.nodup_destinations (known : opened.Known request) (home : Location) :
    (opened.plan.files.map fun pair => pair.2.locate home).Nodup := by
  have places : opened.plan.files.map (fun pair => pair.2.locate home) =
      opened.plan.files.map fun pair => request.sitePackages.locate home ++ RecordedPath.names pair.1.path :=
    List.map_congr_left fun pair planned => known.locate_planned planned home
  rw [places]
  have apart := known.faithful.nodup_names.map (List.append_right_injective (request.sitePackages.locate home))
  rwa [List.map_map] at apart

/-- Once the directories are there, all files are written, whether the archive can still be read or not. -/
theorem yields_unpack {now : World} {workers : Nat} (grows : world.files.Grows (fun _ => True) now.files)
    (known : opened.Known request) (container : openContainer request.archive (.ok file) = .ok index)
    (free : ∀ pair ∈ opened.plan.files, world.files.get? (pair.2.locate world.files.home) = none)
    (archived : ∀ mode content, world.files.get? (request.archive.locate world.files.home) =
      some (.file mode content) → content = file) :
    Yields (fun _ after => Unpacks request.archive file opened.plan.files now.files after.files ∧
      ∀ mode content, after.files.get? (request.archive.locate world.files.home) = some (.file mode content) →
        world.files.get? (request.archive.locate world.files.home) = some (.file mode content))
      (extractShares request.archive (shareOut workers opened.plan.files)) now := by
  have shared := flatten_shareOut workers opened.plan.files
  -- Files are not made together with directories.
  have older {location : Location} {mode : Nat} {content : ByteArray}
    (found : now.files.get? location = some (.file mode content)) :
      world.files.get? location = some (.file mode content) := by
    rcases grows.get? location with same | ⟨-, -, directory⟩
    · exact same.symm.trans found
    · cases found.symm.trans directory
  by_cases legible : ∃ location mode, now.files.status true request.archive = .ok (location, .file mode file)
  · obtain ⟨location, mode, legible⟩ := legible
    have apart : ∀ pair ∈ (shareOut workers opened.plan.files).flatten,
        pair.2.locate now.files.home ≠ request.archive.locate now.files.home := by
      rw [shared]
      intro pair member same
      obtain ⟨rfl, there⟩ := status_sound grows.plain legible
      rw [← same] at there
      have found := older there
      rw [grows.home, free pair member] at found
      cases found
    refine (yields_extractShares grows.plain container legible
      (by rw [shared]; exact known.nodup_destinations _) apart).weaken
      fun _ after unpacks => ?_
    rw [shared] at unpacks apart
    refine ⟨unpacks, fun mode content found => older ?_⟩
    rw [← grows.home] at found ⊢
    rwa [unpacks.outside _ fun pair member => (apart pair member).symm] at found
  · have illegible : ∀ content, now.files.readFile request.archive = .ok content → content = .empty := by
      intro content read
      refine (readFile_eq_ok grows.plain read).resolve_left fun ⟨mode, reached⟩ => ?_
      have found := older (status_sound grows.plain reached).2
      rw [grows.home] at found
      cases archived _ _ found
      exact legible ⟨_, _, reached⟩
    refine (yields_extractShares_illegible illegible).weaken fun _ after ⟨here, empty⟩ => ?_
    subst here
    rw [shared] at empty
    rw [empty]
    exact ⟨.nil grows.plain, fun mode content => older⟩

/-- What extraction leaves of a plan. -/
structure Extracted (request : Request) (opened : Opened) (file : ByteArray) (before after : FileSystem) : Prop where
  changes : Changes (opened.Makes request before.home) (opened.Stores before.home) before after
  packages : after.isDirectory request.sitePackages = true
  directories : ∀ path ∈ opened.plan.directories, after.isDirectory path = true
  files : ∀ pair ∈ opened.plan.files, ∃ content, Decodes request.archive file pair.1 content ∧
    after.get? (pair.2.locate before.home) = some (.file ((pair.1.mode.map (· % 0o1000)).getD 0o444) content)
  archived : ∀ mode content, after.get? (request.archive.locate before.home) = some (.file mode content) →
    before.get? (request.archive.locate before.home) = some (.file mode content)

theorem yields_extract (plain : world.files.Plain) (known : opened.Known request)
    (source : opened.wheel.path = request.archive) (container : openContainer request.archive (.ok file) = .ok index)
    (free : ∀ pair ∈ opened.plan.files, world.files.get? (pair.2.locate world.files.home) = none)
    (archived : ∀ mode content, world.files.get? (request.archive.locate world.files.home) =
      some (.file mode content) → content = file) :
    Yields (fun _ after => Extracted request opened file world.files after.files)
      (extract opened.wheel opened.plan request.sitePackages request.jobs) world := by
  have changing :
    Yields (fun _ after => Changes (opened.Makes request world.files.home) (opened.Stores world.files.home)
      world.files after.files) (extract opened.wheel opened.plan request.sitePackages request.jobs) world :=
    (Yields.of_safe (orderly_host.safe_of_tries plain (tries_extract.allowing fun _ => confined_of_extracting)
      fun _ _ _ => trivial)).weaken fun _ _ done => done.2
  have told : request.sitePackages.components ≠ [] := by
    simp [Request.sitePackages, Path.components_div properName_sitePackages]
  have under : ∀ path ∈ opened.plan.directories, path.components ≠ [] := by
    intro path member
    obtain ⟨names, -, below⟩ := known.faithful.directories path member
    rw [show path.components = _ from below]
    simp [told]
  have filling : Yields (fun _ after => after.files.isDirectory request.sitePackages = true ∧
      (∀ path ∈ opened.plan.directories, after.files.isDirectory path = true) ∧
      (∀ pair ∈ opened.plan.files, ∃ content, Decodes request.archive file pair.1 content ∧
        after.files.get? (pair.2.locate world.files.home) =
        some (.file ((pair.1.mode.map (· % 0o1000)).getD 0o444) content)) ∧
      ∀ mode content, after.files.get? (request.archive.locate world.files.home) = some (.file mode content) →
        world.files.get? (request.archive.locate world.files.home) = some (.file mode content))
      (extract opened.wheel opened.plan request.sitePackages request.jobs) world := by
    unfold extract
    refine ⟨trivial, fun answer made replies => ?_⟩
    obtain ⟨begun, there⟩ := replies.createDirectories plain
    cases answer with
    | error => trivial
    | ok =>
      refine (yields_makeDirectories begun.plain under).bind fun _ now made => ?_
      obtain ⟨further, directories⟩ := made
      have grows := (begun.weaken fun _ _ => trivial).trans further
      have root := isDirectory_persists begun.plain further.plain further.home further.persists (there rfl told)
      rw [source]
      refine (yields_unpack grows known container free archived).weaken fun _ after unpacked => ?_
      obtain ⟨unpacks, archive⟩ := unpacked
      have still {path : Path} (there : now.files.isDirectory path = true) : after.files.isDirectory path = true :=
        isDirectory_persists grows.plain unpacks.plain unpacks.home unpacks.persists there
      have inside := unpacks.inside
      simp only [grows.home, fileMode_eq] at inside
      exact ⟨still root, fun path member => still (directories path member), inside, archive⟩
  refine (changing.and filling).weaken fun _ _ extracted => ?_
  obtain ⟨changes, packages, directories, files, archive⟩ := extracted
  exact ⟨changes, packages, directories, files, archive⟩

end Install
end WheelInstaller
