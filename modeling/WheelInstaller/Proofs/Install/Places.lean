import WheelInstaller.Proofs.Host.World
import WheelInstaller.Proofs.Install.Requests

/-! The places that an installation fills, as locations. -/

namespace WheelInstaller.Install

open Host FileSystem

variable {request : Request} {opened : Opened} {home location : Location}

/-- Where filling the target can make directories. -/
def Opened.Makes (request : Request) (opened : Opened) (home location : Location) : Prop :=
  ∃ path, (path = request.sitePackages ∨ path ∈ opened.plan.directories) ∧ path.Passes home location

/-- Where files of the archive go. -/
def Opened.Stores (opened : Opened) (home location : Location) : Prop :=
  ∃ entry path, (entry, path) ∈ opened.plan.files ∧ location = path.locate home

/-- Where files of the archive go, and where the archive itself does. -/
def Opened.Holds (opened : Opened) (home location : Location) : Prop :=
  opened.Stores home location ∨ location = opened.retained.locate home

/-- Where packages can get initializers. -/
def Request.Initializes (request : Request) (home location : Location) : Prop :=
  ∃ names, location = request.sitePackages.locate home ++ (names ++ [Packages.initializerName])

theorem confined_of_extracting {wanted : Host.Request}
    (extracting : Extracting (OpenFile.LocatedAt home) request.sitePackages opened.plan wanted) :
    wanted.Confined home (opened.Makes request home) (opened.Stores home) := by
  cases wanted with
  | createDirectories path => exact fun location passes => ⟨path, extracting, passes⟩
  | createFile path | setMode path mode =>
    obtain ⟨entry, planned⟩ := extracting
    exact ⟨entry, path, planned, rfl⟩
  | append file chunk =>
    obtain ⟨entry, path, planned, located⟩ := extracting
    exact ⟨entry, path, planned, located⟩
  | write | rename | copy | removeFile | removeDirectory | commandOutput | cleanUp => exact extracting.elim
  | _ => trivial

theorem silent_of_extracting {handle : Path → OpenFile → Prop} {root : Path} {plan : Plan} {wanted : Host.Request}
    (extracting : Extracting handle root plan wanted) : wanted.Silent := by
  cases wanted <;> trivial

theorem confined_of_retaining (kept : request.retainedPath = .ok opened.retained) {wanted : Host.Request}
    (retaining : Retaining request wanted) : wanted.Confined home (opened.Makes request home) (opened.Holds home) := by
  cases wanted with
  | copy source target =>
    cases kept.symm.trans retaining.2
    exact .inr rfl
  | createDirectories | createFile | setMode | append | write | rename | removeFile | removeDirectory | commandOutput
  | cleanUp => exact retaining.elim
  | _ => trivial

theorem confined_of_initializing {wanted : Host.Request}
    (initializing : Packages.Initializing request.sitePackages wanted) :
    wanted.Confined home (fun _ => False) (request.Initializes home) := by
  cases wanted with
  | write path content =>
    obtain ⟨names, below⟩ := initializing
    exact ⟨names, below.locate⟩
  | copy | createDirectories | createFile | setMode | append | rename | removeFile | removeDirectory | commandOutput
  | cleanUp => exact initializing.elim
  | _ => trivial

theorem silent_of_initializing {root : Path} {wanted : Host.Request}
    (initializing : Packages.Initializing root wanted) :
    wanted.Silent := by
  cases wanted <;> trivial

theorem confined_of_filling (known : opened.Known request) {wanted : Host.Request}
    (filling : Filling request (OpenFile.LocatedAt home) opened.plan wanted) :
    wanted.Confined home (opened.Makes request home) fun location => opened.Holds home location ∨
    request.Initializes home location := by
  rcases filling with extracting | retaining | initializing
  · exact (confined_of_extracting extracting).weaken (fun _ => id) fun _ stores => .inl (.inl stores)
  · exact (confined_of_retaining known.retained retaining).weaken (fun _ => id) fun _ => .inl
  · exact (confined_of_initializing initializing).weaken (fun _ => False.elim) fun _ => .inr

theorem confined_fillTarget (known : opened.Known request) :
    Tries (OpenFile.LocatedAt home) (Request.Confined home (opened.Makes request home) fun location =>
      opened.Holds home location ∨ request.Initializes home location) (fun _ => True) (fillTarget request opened) :=
  (tries_fillTarget known).allowing fun _ => confined_of_filling known

/-! ### The places in the target -/

/-- What makes a directory fit to be installed into: it is told, and not by going up. -/
structure Request.Direct (request : Request) : Prop where
  told : request.directory.components ≠ []
  straight : request.directory.Straight

namespace Request.Direct

variable (direct : request.Direct)
include direct

theorem filled : request.directory.text ≠ "" := by
  intro empty
  apply direct.told
  obtain ⟨archive, ⟨text⟩⟩ := request
  cases empty
  rfl

theorem straight_packages : request.sitePackages.Straight := by
  have straight := direct.straight
  rw [Path.Straight] at straight ⊢
  rw [Request.sitePackages, Path.components_div properName_sitePackages]
  simpa using straight

theorem straight_summary : request.summaryPath.Straight := by
  have straight := direct.straight
  rw [Path.Straight] at straight ⊢
  rw [Request.summaryPath, Path.components_div properName_summary]
  simpa using straight

end Request.Direct

theorem locate_sitePackages : request.sitePackages.locate home = request.directory.locate home ++ ["site-packages"] :=
  Path.locate_div properName_sitePackages

theorem locate_packages (names : List String) :
    request.sitePackages.locate home ++ names = request.directory.locate home ++ "site-packages" :: names := by
  rw [locate_sitePackages, List.append_assoc, List.singleton_append]

theorem locate_summary : request.summaryPath.locate home = request.directory.locate home ++ [Summary.fileName] :=
  Path.locate_div properName_summary

theorem locate_draft : request.summaryDraft.locate home = request.directory.locate home ++
    [s!"{Summary.fileName}.tmp"] :=
  Path.locate_div properName_draft

theorem Opened.Known.locate_planned {pair : Entry × Path} (known : opened.Known request)
    (planned : pair ∈ opened.plan.files)
    (home : Location) : pair.2.locate home = request.sitePackages.locate home ++ RecordedPath.names pair.1.path :=
  (known.faithful.destinations pair planned).locate

theorem Opened.Known.locate_retained (known : opened.Known request) (home : Location) :
    ∃ name, request.archiveName = .ok name ∧ opened.retained.locate home = request.directory.locate home ++ [name] := by
  obtain ⟨name, named, proper, same⟩ := retainedPath_eq_ok known.retained
  exact ⟨name, named, by rw [same, Path.locate_div proper]⟩

theorem apart_of_name_ne {name other : String} {rest more : Location} (apart : name ≠ other) :
    location ++ name :: rest ≠ location ++ other :: more :=
  fun same => apart (List.cons.inj (List.append_cancel_left same)).1

theorem Opened.Known.retained_apart (known : opened.Known request) (home : Location) (names : List String) :
    opened.retained.locate home ≠ request.sitePackages.locate home ++ names := by
  obtain ⟨name, named, same⟩ := known.locate_retained home
  rw [same, locate_packages]
  exact apart_of_name_ne (archiveName_apart named).1

/-- Filling the target makes nothing in it but the directory of the packages. -/
theorem Opened.Makes.below (makes : opened.Makes request home location) (known : opened.Known request)
    (straight : request.directory.Straight) :
    ∃ names, location <+: request.directory.locate home ++ "site-packages" :: names := by
  obtain ⟨path, which, passes⟩ := makes
  obtain ⟨names, -, below⟩ := known.faithful.exists_extends which
  have passed := (below.straight (extends_sitePackages.straight straight)).passes passes
  rw [below.locate, locate_packages] at passed
  exact ⟨names, passed⟩

/-- A directory that filling the target makes is on the way to the target, or is at or below that of the packages. -/
theorem Opened.Makes.split (makes : opened.Makes request home location) (known : opened.Known request) :
    request.directory.Passes home location ∨ request.sitePackages.locate home <+: location := by
  obtain ⟨path, which, above, inside, told, rfl⟩ := makes
  obtain ⟨names, -, below⟩ := known.faithful.exists_extends which
  rw [show path.components = request.sitePackages.components ++ names.map .name from below] at inside
  rcases List.prefix_or_prefix_of_prefix inside (List.prefix_append _ _) with early | ⟨rest, split⟩
  · rw [Request.sitePackages, Path.components_div properName_sitePackages] at early
    rcases List.prefix_concat_iff.mp early with same | within
    · right
      refine ⟨[], ?_⟩
      rw [List.append_nil, Path.locate, Request.sitePackages,
        Path.components_div properName_sitePackages, ← same, Path.locate]
    · exact .inl ⟨above, within, told, rfl⟩
  · right
    rw [← split, List.prefix_append_right_inj] at inside
    rw [Path.locate, Path.locate, ← split, List.foldl_append]
    refine Path.prefix_foldl_stepFrom ⟨fun member => ?_, fun member => ?_⟩ <;> simpa using inside.subset member

theorem Opened.Stores.place (stores : opened.Stores home location) (known : opened.Known request) :
    ∃ names, names ≠ [] ∧ location = request.directory.locate home ++ "site-packages" :: names := by
  obtain ⟨entry, path, planned, rfl⟩ := stores
  obtain ⟨names, some, below⟩ := known.faithful.below planned
  exact ⟨names, some, by rw [below.locate, locate_packages]⟩

theorem Opened.Holds.place (holds : opened.Holds home location) (known : opened.Known request) :
    (∃ names, names ≠ [] ∧ location = request.directory.locate home ++ "site-packages" :: names) ∨
      ∃ name, request.archiveName = .ok name ∧ location = request.directory.locate home ++ [name] := by
  rcases holds with stores | rfl
  · exact .inl (stores.place known)
  · exact .inr (known.locate_retained home)

theorem Request.Initializes.place (initializes : request.Initializes home location) :
    ∃ names, names ≠ [] ∧ location = request.directory.locate home ++ "site-packages" :: names := by
  obtain ⟨names, rfl⟩ := initializes
  exact ⟨names ++ [Packages.initializerName], by simp, locate_packages _⟩

theorem not_filled {name : String} {rest : Location} (known : opened.Known request)
    (straight : request.directory.Straight)
    (notPackages : name ≠ "site-packages") (notArchive : request.archiveName ≠ .ok name) :
    ¬ opened.Makes request home (request.directory.locate home ++ name :: rest) ∧
      ¬ (opened.Holds home (request.directory.locate home ++ name :: rest) ∨
        request.Initializes home (request.directory.locate home ++ name :: rest)) := by
  refine ⟨fun makes => ?_, ?_⟩
  · obtain ⟨names, below⟩ := makes.below known straight
    have first := (List.prefix_append_right_inj _).mp below
    exact notPackages (List.cons_prefix_cons.mp first).1
  · rintro (holds | initializes)
    · rcases holds.place known with ⟨names, -, same⟩ | ⟨given, named, same⟩
      · exact apart_of_name_ne notPackages same
      · obtain ⟨rfl, -⟩ := List.cons.inj (List.append_cancel_left same)
        exact notArchive named
    · obtain ⟨names, -, same⟩ := initializes.place
      exact apart_of_name_ne notPackages same

end WheelInstaller.Install
