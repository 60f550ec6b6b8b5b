import WheelInstaller.Proofs.FileSystem.Additions
import WheelInstaller.Proofs.Host.Doubtful
import WheelInstaller.Proofs.Packages.Planned
import WheelInstaller.Proofs.Packages.Depiction

/-!
Giving initializers only adds empty files, whatever the host refuses on the way and wherever it stops.
A directory whose initializer is there is never planned, even if the host denies what it is.
-/

namespace WheelInstaller.Packages

open Host Host.Rules FileSystem

variable {world : World} {files : FileSystem} {root : Path} {site : Location} {names target : List String}
    {snapshot : Snapshot}

/-- What a survey does not list as a file is a directory. -/
structure Complete (files : FileSystem) (directory : Path) (children : List String) (found : Survey) : Prop where
  listed : ∀ name ∈ children, name ∈ found.listing.files ∨ files.isDirectory (directory / name) = true
  proper : ∀ name ∈ found.listing.directories, ProperName name
  inner : ∀ name ∈ found.inner, ProperName name

theorem complete_nil {directory : Path} : Complete files directory [] {} :=
  ⟨by simp, by simp, by simp⟩

theorem Complete.note {directory : Path} {children : List String} {seen : Survey} {child : String} {isDirectory : Bool}
    (complete : Complete files directory children seen) (named : ProperName child)
    (found : isDirectory = true → files.isDirectory (directory / child) = true) :
    Complete files directory (children ++ [child]) (seen.note child isDirectory) := by
  have early {name : String} (member : name ∈ children ++ [child]) : name ∈ children ∨
    name = child := by simpa using member
  cases isDirectory with
  | false =>
    refine ⟨fun name member => ?_, complete.proper, complete.inner⟩
    rw [Survey.note, Listing.mem_files_addFile]
    rcases early member with early | here
    · exact (complete.listed name early).imp_left .inr
    · exact .inl (.inl here)
  | true =>
    constructor
    case listed =>
      intro name member
      rcases early member with early | rfl
      · exact complete.listed name early
      · exact .inr (found rfl)
    case proper =>
      intro name member
      rcases Listing.mem_directories_addDirectory.mp member with rfl | early
      · exact named
      · exact complete.proper name early
    case inner =>
      intro name member
      rcases List.mem_append.mp ((seen.sublist_inner_note child true).subset member) with early | here
      · exact complete.inner name early
      · exact List.mem_singleton.mp here ▸ named

theorem complete_survey {directory : Path} {children : List String} {bad : HostError → World → Prop}
    (proper : ∀ name ∈ children, ProperName name) :
    doubtful.Safe (Ends (fun found after => after = world ∧ Complete world.files directory children found) bad)
      (survey {} (children.map (directory / ·))).run world := by
  refine safe_survey_each proper (fun done found after => after = world ∧ Complete world.files directory done found)
    ⟨rfl, complete_nil⟩ ?_
  rintro done child left found _ cut ⟨rfl, complete⟩
  refine ⟨trivial, fun answer after replies => ?_⟩
  obtain ⟨rfl, told⟩ := isDirectory_of_doubtful replies
  exact ⟨rfl, complete.note (proper child (by simp [cut])) told⟩

/-- What a listing does not tell of as a file is a directory. -/
structure Covers (site : Location) (files : FileSystem) (root : Path) (snapshot : Snapshot) : Prop where
  proper : snapshot.Proper
  listed : ∀ names listing, snapshot.at? names = some listing → ∀ name, files.get? (site ++ (names ++ [name])) ≠ none →
    name ∈ listing.files ∨ files.isDirectory (root.within (names ++ [name])) = true

theorem covers_empty : Covers site files root {} := by
  refine ⟨.empty, ?_⟩
  intro names listing listed
  simp [Snapshot.at?] at listed

section Sited

variable (sited : world.files.Sited root site) (wellNamed : world.files.WellNamed)
include sited wellNamed

omit sited in
theorem Covers.update {found : Survey} (covers : Covers site world.files root snapshot)
    (proper : ∀ name ∈ names, ProperName name)
    (complete : Complete world.files (root.within names) (world.files.children (site ++ names)) found) :
    Covers site world.files root (snapshot.update (Path.origin.under names) fun _ => found.listing) := by
  have extends_ : Path.origin.Extends names (Path.origin.under names) := Path.extends_under proper
  refine ⟨covers.proper.update extends_ complete.proper, ?_⟩
  intro others listing listed name occupied
  rw [Snapshot.at?_update extends_] at listed
  split at listed
  next here =>
    subst here
    cases listed
    have named : ProperName name := wellNamed _ occupied name (by simp)
    have all : ∀ other ∈ names ++ [name], ProperName other := by simpa [or_imp, forall_and] using ⟨proper, named⟩
    rw [← List.append_assoc, ← mem_children] at occupied
    have spelled : root.within names / name = root.within (names ++ [name]) := by
      rw [Path.within_eq_under (by simp) all]
      exact Path.join_origin_under_div proper named
    rw [← spelled]
    exact complete.listed name occupied
  next => exact covers.listed others listing listed name occupied

theorem Covers.free (covers : Covers site world.files root snapshot) (lacks : snapshot.Lacks target) (mode : Nat)
    (content : ByteArray) :
    world.files.get? (site ++ (target ++ [initializerName])) ≠ some (.file mode content) := by
  intro found
  obtain ⟨-, listing, listed, absent⟩ := lacks
  have occupied : world.files.get? (site ++ (target ++ [initializerName])) ≠ none := by simp [found]
  have proper := wellNamed.proper occupied
  have directory := (covers.listed target listing listed _ occupied).resolve_left absent
  obtain ⟨-, there⟩ := (sited.isDirectory_within proper).mp directory
  rw [found] at there
  cases there

theorem covers_scanFrom {depth : Nat} (proper : ∀ name ∈ names, ProperName name)
    (covers : Covers site world.files root snapshot) :
    doubtful.Safe (Ends (fun found after => after = world ∧ Covers site world.files root found) fun _ after =>
      after.files = world.files)
      (scanFrom root depth (Path.origin.under names) snapshot).run world := by
  induction depth generalizing names snapshot with
  | zero => exact ⟨rfl, covers⟩
  | succ depth ih =>
    unfold scanFrom
    refine ⟨trivial, fun answer after replies => ?_⟩
    cases answer with
    | error => exact files_of_doubtful (by trivial) replies
    | ok children =>
      obtain ⟨rfl, children, listed, rfl⟩ := readDirectory_of_doubtful replies
      obtain ⟨-, -, rfl⟩ := (sited.readDirectory_within proper).mp listed
      have named : ∀ name ∈ after.files.children (site ++ names), ProperName name := fun name member =>
        wellNamed _ (mem_children.mp member) name (by simp)
      refine Safe.andThen (complete_survey named) fun found now surveyed => ?_
      obtain ⟨same, complete⟩ := surveyed
      subst same
      -- The directories to be looked into are scanned one after the other.
      refine Safe.foldlM (fun _ _ found after => after = now ∧ Covers site now.files root found)
        ⟨rfl, covers.update wellNamed proper complete⟩ fun _ name _ middle _ cut held => ?_
      obtain ⟨same, covers⟩ := held
      subst same
      have inside : ProperName name := complete.inner name (List.mem_reverse.mp (by simp [cut]))
      rw [← Path.under_concat]
      exact ih (by simpa [or_imp, forall_and] using ⟨proper, inside⟩) covers

theorem covers_scan :
    doubtful.Safe (Ends (fun snapshot after => after = world ∧ Covers site world.files root snapshot) fun _ after =>
      after.files = world.files)
      (scan root).run world :=
  covers_scanFrom sited wellNamed (List.forall_mem_nil _) covers_empty

end Sited

theorem safe_writeAll_adds {targets : List (List String)} {added : Location → Prop} (sited : files.Sited root site)
    (named : ∀ target ∈ targets, ∀ name ∈ target, ProperName name)
    (free : ∀ target ∈ targets, ∀ mode content, files.get? (site ++ (target ++ [initializerName])) ≠
      some (.file mode content))
    (adds : Adds files added world.files) :
    doubtful.Safe
      (Ends
        (fun created after => created = (targets.map Snapshot.initializerOf).map root.join ∧
          (∀ target ∈ targets, Taken root (target ++ [initializerName])) ∧
          Adds files (fun location => added location ∨ ∃ target ∈ targets,
            location = site ++ (target ++ [initializerName])) after.files)
        fun _ after => ∃ more, Adds files more after.files ∧
          ∀ location, more location → added location ∨ ∃ target ∈ targets,
          location = site ++ (target ++ [initializerName]))
      (writeAll root (targets.map Snapshot.initializerOf)).run world := by
  induction targets generalizing world added with
  | nil => exact ⟨rfl, by simp, adds.congr (by simp)⟩
  | cons target rest ih =>
    have inside : ∀ name ∈ target, ProperName name := named target List.mem_cons_self
    have proper : ∀ name ∈ target ++ [initializerName], ProperName name := by
      simpa [or_imp, forall_and] using ⟨inside, properName_initializer⟩
    have stopped {after : World} (same : after.files = world.files) : ∃ more, Adds files more after.files ∧
      ∀ location, more location →
        added location ∨ ∃ other ∈ target :: rest, location = site ++ (other ++ [initializerName]) :=
      ⟨added, same ▸ adds, fun location early => .inl early⟩
    rw [List.map_cons]
    unfold writeAll
    refine ⟨trivial, fun answer after replies => ?_⟩
    rcases write_of_doubtful replies with ⟨part, outcome, begun, ran, told⟩ | ⟨⟨error, rfl⟩, same⟩
    -- There is no part of nothing, so even a write that fails half done leaves an initializer, or leaves none.
    · obtain rfl : part = .empty := ByteArray.ext (Array.toList_inj.mp (List.prefix_nil.mp begun))
      rcases adds.writeFile sited proper rfl (free target List.mem_cons_self) ran
        with ⟨error, rfl, same⟩ | ⟨rfl, taken, more⟩
      · cases answer with
        | ok => cases (told rfl).2
        | error => exact stopped same
      · have within (location : Location) : (added location ∨ location = site ++ (target ++ [initializerName])) ∨
            (∃ other ∈ rest, location = site ++ (other ++ [initializerName])) ↔
              added location ∨ ∃ other ∈ target :: rest, location = site ++ (other ++ [initializerName]) := by
          simp [or_assoc]
        cases answer with
        | error =>
          exact ⟨_, more, fun location either => (within location).mp (.inl either)⟩
        | ok =>
          have others := ih (fun other member => named other (by simp [member]))
            (fun other member => free other (by simp [member])) more
          refine Safe.andThen (others.failing ?_) fun created last done => ?_
          · rintro _ _ ⟨more, adds, bound⟩
            exact ⟨more, adds, fun location new => (within location).mp (bound location new)⟩
          obtain ⟨same, others, adds⟩ := done
          subst same
          exact ⟨rfl, by simpa using ⟨taken, others⟩, adds.congr fun location => (within location).symm⟩
    · exact stopped (congrArg World.files same)

theorem files_of_unlisted (unlisted : ∀ children, world.files.readDirectory (root.within []) ≠ .ok children) :
    doubtful.Safe (Ends (fun _ _ => False) fun _ after => after.files = world.files) (scan root).run world := by
  unfold scan scanFrom
  refine ⟨trivial, fun answer after replies => ?_⟩
  cases answer with
  | error => exact files_of_doubtful (by trivial) replies
  | ok children =>
    obtain ⟨-, names, listed, -⟩ := readDirectory_of_doubtful replies
    exact absurd listed (unlisted names)

/-- Nothing changed but that empty initializers came to where nothing was. -/
def AddsInitializers (before after : FileSystem) : Prop :=
  ∃ added, Adds before added after ∧ ∀ location, added location → location.getLast? = some initializerName

theorem AddsInitializers.of_eq {after : FileSystem} (same : after = files) : AddsInitializers files after :=
  ⟨fun _ => False, same ▸ .refl _, fun _ => False.elim⟩

theorem AddsInitializers.of_targets {targets : List (List String)} {added : Location → Prop} {after : FileSystem}
    (adds : Adds files added after)
    (each : ∀ location, added location → False ∨ ∃ target ∈ targets, location = site ++ (target ++ [initializerName])) :
    AddsInitializers files after := by
  refine ⟨added, adds, ?_⟩
  intro location new
  obtain ⟨target, -, rfl⟩ := (each location new).resolve_left id
  rw [← List.append_assoc, List.getLast?_concat]

/-- Whatever comes of giving initializers, only empty ones are added. -/
theorem safe_normalize_adds (wellNamed : world.files.WellNamed) (unlinked : world.files.Unlinked root) :
    doubtful.Safe (Ends (fun _ after => AddsInitializers world.files after.files) fun _ after =>
      AddsInitializers world.files after.files)
      (normalize root false).run world := by
  unfold normalize
  simp only [Bool.false_eq_true, if_false]
  by_cases listed : ∃ children, world.files.readDirectory (root.within []) = .ok children
  · obtain ⟨children, listed⟩ := listed
    obtain ⟨site, found⟩ := exists_site_of_readDirectory listed
    have sited := unlinked.sited found
    refine Safe.andThen ((covers_scan sited wellNamed).failing fun _ _ => .of_eq) fun snapshot now ⟨same, covers⟩ => ?_
    subst same
    obtain ⟨targets, planned, named, exactly⟩ := Snapshot.exists_targets covers.proper
    rw [planned]
    have free : ∀ target ∈ targets, ∀ mode content, now.files.get? (site ++ (target ++ [initializerName])) ≠
      some (.file mode content) :=
      fun target member => covers.free sited wellNamed ((exactly target).mp member).2
    refine (safe_writeAll_adds sited named free (.refl now.files)).weaken fun outcome after ended => ended.imp ?_ ?_
    · rintro created - ⟨-, -, adds⟩
      exact .of_targets adds fun location => id
    · rintro error - ⟨more, adds, bound⟩
      exact .of_targets adds bound
  · rw [not_exists] at listed
    exact Safe.andThen ((files_of_unlisted listed).failing fun _ _ => .of_eq)
      fun _ _ => False.elim

end WheelInstaller.Packages
